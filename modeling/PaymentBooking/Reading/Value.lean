import PaymentBooking.Reading.Fault

/-! # Readers of single values

Each reader takes a JSON value to a typed one or to the fault that keeps it from being one. Money
may be given as a text, a whole number or a real number; a real number is read from its shortest
positional digits.
-/

namespace PaymentBooking.Reading

abbrev ValueReader (α : Type) := Json → Except Fault α

/-- The fault for a value of another kind. -/
def wrongType (value : Json) (wanted : String) : Fault := .wrongType (.of value) wanted

/-- The fault for a value of the right kind. -/
def wrongValue (value : Json) (wanted : String) : Fault := .wrongValue (.of value) wanted

def text : ValueReader String
  | .text s => .ok s
  | value => .error (wrongType value "a string")

def bool : ValueReader Bool
  | .bool b => .ok b
  | value => .error (wrongType value "a boolean")

def int64 : ValueReader Int64
  | .number (.whole n) =>
    match (Json.Number.whole n).toInt64? with
    | some i => .ok i
    | none => .error (.wrongValue (.whole n.value) "i64")
  | value => .error (wrongType value "i64")

def decimal? : Json → Option Decimal
  | .number (.whole n) => Decimal.ofInt? n.value
  | .number (.real x) => Decimal.readPlain? x.plainText
  | .text s => Decimal.read? s
  | _ => none

def decimalDescription : String := "a Decimal type representing a fixed-point number"

def decimal (value : Json) : Except Fault Decimal :=
  match decimal? value with
  | some d => .ok d
  | none =>
    match value with
    | .number _ => .error (wrongValue value decimalDescription)
    | .text _ => .error (wrongValue value decimalDescription)
    | _ => .error (wrongType value decimalDescription)

def amount (value : Json) : Except Fault Amount := do
  (Amount.ofDecimal (← decimal value)).mapError .money

def fee (value : Json) : Except Fault Fee := do
  (Fee.ofDecimal (← decimal value)).mapError .money

end PaymentBooking.Reading
