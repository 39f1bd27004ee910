import PaymentBooking.Json.Reader
import PaymentBooking.Json.Writer
import PaymentBooking.Message.Layout

/-! # Statement entries of messages

A message is read as far as a statement needs it: its first transaction has to exist, and every
field of it may be absent. A field is a text, a list of texts to be joined by blanks, or a number
as it is written.
-/

namespace PaymentBooking.Message

/-- The texts of a list with single blanks between them; other items are left out. -/
def joinTexts (items : List Json) : Option String :=
  let joined := " ".intercalate (items.filterMap Json.asText?)
  if joined.isEmpty then none else some joined

def fieldText? : Json → Option String
  | .text s => some s
  | .array items => joinTexts items
  | .number n => some (String.ofList n.text)
  | _ => none

def textAt? (node : Json) (place : Place) : Option String := (node.at? place).bind fieldText?

def transaction (kind : MessageKind) (raw : String) : Except MessageFault Json :=
  match Json.parse? raw with
  | none => .error (.malformed kind)
  | some document =>
    match document.at? kind.layout.transaction with
    | none => .error (.noTransaction kind)
    | some node => .ok node

def payload (amount : Json) (direction : Direction) (endToEndId remittance : Option String)
    (kind : MessageKind) : Json :=
  .ofMembers
    [("Amt", amount),
     ("CdtDbtInd", .text direction.code),
     ("NtryDtls", .array [.ofMembers [("TxDtls", .array [.ofMembers
        [("Refs", .ofMembers [("EndToEndId", .ofText? endToEndId)]),
         ("CdtDbtInd", .text direction.code),
         ("RmtInf", .ofMembers [("Ustrd", .ofText? remittance)])]])]]),
     ("AddtlNtryInf", .text kind.name)]

/-- The entry of a transaction, in the direction of its family unless another one is given. -/
def entryOf (kind : MessageKind) (direction : Option Direction) (node : Json) : StatementEntry :=
  let layout := kind.layout
  let remittance := textAt? node layout.remittance
  { payload := payload ((node.at? layout.amount).getD .null) (direction.getD layout.direction)
      (textAt? node layout.endToEndId) remittance kind
    party := ⟨textAt? node layout.partnerIban, textAt? node layout.partnerName, remittance⟩ }

def entry (kind : MessageKind) (raw : String) (direction : Option Direction) :
    Except MessageFault StatementEntry :=
  (transaction kind raw).map (entryOf kind direction)

end PaymentBooking.Message
