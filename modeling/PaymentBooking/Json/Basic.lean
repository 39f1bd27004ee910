import PaymentBooking.Dict
import PaymentBooking.Json.Number

/-! # JSON values

An object lists its members in the order in which they are written. A value that has been read
lists them by increasing name, as `Json.ofMembers` does; a record that is written in an order of
its own lists its fields in that order. A path leads through objects by member names and through
arrays by indices; an index written as a number is also the name of a member.
-/

namespace PaymentBooking

inductive Json where
  | null
  | bool (b : Bool)
  | number (n : Json.Number)
  | text (s : String)
  | array (items : List Json)
  | object (members : List (String × Json))
deriving Inhabited

namespace Json

def ofDict (d : Dict String Json) : Json := .object d.toList

/-- The object of a list of members; of two members with one name the later counts. -/
def ofMembers (members : List (String × Json)) : Json := ofDict (Dict.ofList members)

def ofInt64 (n : Int64) : Json := .number (.ofInt64 n)

def ofText? : Option String → Json
  | some s => .text s
  | none => .null

def member? (name : String) : Json → Option Json
  | .object members => Dict.findIn? name members
  | _ => none

def asText? : Json → Option String
  | .text s => some s
  | _ => none

/-- The array index that a step of a path stands for: digits without a leading zero. -/
def index? (step : String) : Option Nat :=
  match step.toList with
  | [] => none
  | ['0'] => some 0
  | '0' :: _ => none
  | cs => if cs.all Char.isDigit then some (Nat.ofDigitChars 10 cs 0) else none

def step? (step : String) : Json → Option Json
  | .object members => Dict.findIn? step members
  | .array items => (index? step).bind fun i => items[i]?
  | _ => none

def at? (value : Json) : (path : List String) → Option Json
  | [] => some value
  | s :: path => (value.step? s).bind fun inner => inner.at? path

end Json

abbrev Variables := Dict String Json

end PaymentBooking
