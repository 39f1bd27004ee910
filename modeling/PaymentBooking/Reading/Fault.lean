import PaymentBooking.Text.Printable
import PaymentBooking.Money
import PaymentBooking.Json.Basic

/-! # Faults found while reading a value

What a reader can find wrong with a JSON value, and the text that reports it.
-/

namespace PaymentBooking.Reading

/-- What was found in place of a value of another kind. -/
inductive Found where
  | null
  | bool (b : Bool)
  | whole (n : Int)
  | real (x : Binary64)
  | text (s : String)
  | array
  | object
deriving DecidableEq

/-- The kind of a value, and the value itself if it is a simple one. -/
def Found.of : Json → Found
  | .null => .null
  | .bool b => .bool b
  | .number (.whole n) => .whole n.value
  | .number (.real x) => .real x
  | .text s => .text s
  | .array _ => .array
  | .object _ => .object

def Found.description : Found → String
  | .null => "null"
  | .bool b => "boolean `" ++ toString b ++ "`"
  | .whole n => "integer `" ++ toString n ++ "`"
  | .real x => "floating point `" ++ String.ofList (Json.Number.real x).text ++ "`"
  | .text s => "string " ++ Text.quoted s
  | .array => "sequence"
  | .object => "map"

/-- A fault of a value. -/
inductive Fault where
  /-- The value is of another kind than wanted. -/
  | wrongType (found : Found) (wanted : String)
  /-- The value is of the right kind and still not one of those wanted. -/
  | wrongValue (found : Found) (wanted : String)
  /-- A list has another number of items than wanted. -/
  | wrongLength (length : Nat) (wanted : String)
  | missingField (name : String)
  | duplicateField (name : String)
  /-- A name is none of a list of names. -/
  | unknownVariant (name : String) (wanted : String)
  | money (fault : MoneyFault)
deriving DecidableEq

def Fault.message : Fault → String
  | .wrongType found wanted => "invalid type: " ++ found.description ++ ", expected " ++ wanted
  | .wrongValue found wanted => "invalid value: " ++ found.description ++ ", expected " ++ wanted
  | .wrongLength length wanted =>
    "invalid length " ++ toString length ++ ", expected " ++ wanted
  | .missingField name => "missing field `" ++ name ++ "`"
  | .duplicateField name => "duplicate field `" ++ name ++ "`"
  | .unknownVariant name wanted => "unknown variant `" ++ name ++ "`, expected " ++ wanted
  | .money fault => "Validation error: " ++ fault.message

end PaymentBooking.Reading
