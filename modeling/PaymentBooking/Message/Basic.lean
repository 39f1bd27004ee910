import PaymentBooking.Reading.Value

/-! # Payment messages

The families of ISO 20022 messages that bookings refer to, and what a booking takes from one: a
statement entry with the counterparty.
-/

namespace PaymentBooking

inductive MessageKind where
  /-- A customer credit transfer between institutions. -/
  | pacs008
  /-- A payment return. -/
  | pacs004
  /-- The initiation of a customer credit transfer. -/
  | pain001
  /-- A request to cancel a payment between institutions. -/
  | camt056
deriving DecidableEq

def MessageKind.name : MessageKind → String
  | .pacs008 => "pacs.008"
  | .pacs004 => "pacs.004"
  | .pain001 => "pain.001"
  | .camt056 => "camt.056"

/-- Whether an entry is a credit or a debit. -/
inductive Direction where
  | credit
  | debit
deriving DecidableEq

namespace Direction

def code : Direction → String
  | .credit => "CRDT"
  | .debit => "DBIT"

def ofCode? (s : String) : Option Direction :=
  if s = "CRDT" then some .credit else if s = "DBIT" then some .debit else none

open Reading in
def ofCode (s : String) : Except Fault Direction :=
  match ofCode? s with
  | some d => .ok d
  | none => .error (.unknownVariant s "`CRDT` or `DBIT`")

open Reading in
/-- Reads a direction: a code, or an object whose one member has a code for its name and `null`
for its value. -/
def ofJson : ValueReader Direction
  | .text s => ofCode s
  | .object [(name, value)] => do
    let d ← ofCode name
    match value with
    | .null => .ok d
    | value => .error (wrongType value "unit")
  | .object _ => .error (.wrongValue .object "map with a single key")
  | value => .error (wrongType value "string or map")

end Direction

/-- The counterparty of a payment, as far as a message names it. -/
structure Party where
  iban : Option String
  name : Option String
  remittance : Option String
deriving DecidableEq

def Party.unknown : Party := ⟨none, none, none⟩

/-- A statement entry: a document for the statement, and the counterparty. -/
structure StatementEntry where
  payload : Json
  party : Party

def StatementEntry.emptyPayload : Json := .object []

/-- Why a message cannot be used. -/
inductive MessageFault where
  /-- The text is no JSON. -/
  | malformed (kind : MessageKind)
  | noTransaction (kind : MessageKind)
  | lacks (kind : MessageKind) (what : String)
deriving DecidableEq

/-- What a message says in place of the cause of a JSON error: positions and causes of errors in
a text are not reported. -/
def jsonErrorText : String := "<json>"

def MessageFault.message : MessageFault → String
  | .malformed kind => "malformed " ++ kind.name ++ ": " ++ jsonErrorText
  | .noTransaction kind => kind.name ++ " carries no transaction information"
  | .lacks kind what => kind.name ++ " lacks " ++ what

end PaymentBooking
