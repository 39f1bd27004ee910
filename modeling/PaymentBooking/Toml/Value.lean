import PaymentBooking.Decimal.Text
import PaymentBooking.Dict
import PaymentBooking.Binary64.Shortest
import PaymentBooking.Calendar.Moment

/-! # TOML values

The values of a TOML document, and how they are read: as texts, numbers, lists, dictionaries and
records. A real number may be infinite or no number at all. A date or a time is no text, but it can
stand where a dictionary or a record is wanted.
-/

namespace PaymentBooking

/-- A TOML value. The entries of a table have different keys. -/
inductive Toml where
  | text (s : String)
  | integer (n : Int64)
  /-- A real number; `none` is an infinite one or none at all. -/
  | real (x : Option Binary64)
  | bool (b : Bool)
  | moment (m : Moment)
  | array (items : List Toml)
  | table (entries : List (String × Toml))
deriving Inhabited

namespace Toml

def asText? : Toml → Option String
  | .text s => some s
  | _ => none

def asInt64? : Toml → Option Int64
  | .integer n => some n
  | _ => none

def asDecimal? : Toml → Option Decimal
  | .text s => Decimal.read? s
  | .integer n => Decimal.ofInt? n.toInt
  | .real (some x) => Decimal.readPlain? x.plainText
  | _ => none

def asList? {α : Type} (read : Toml → Option α) : Toml → Option (List α)
  | .array items => items.mapM read
  | _ => none

/-- The key under which a date or a time stands where a dictionary is wanted. -/
def momentKey : String := "$__toml_private_datetime"

/-- The dictionary that a table is, each value read in one way. A date or a time is the dictionary
whose one entry is its written form. -/
def asDict? {α : Type} (read : Toml → Option α) : Toml → Option (Dict String α)
  | .moment m => (read (.text m.text)).map fun v => .ofList [(momentKey, v)]
  | .table entries => (entries.mapM fun e => (read e.2).map fun v => (e.1, v)).map .ofList
  | _ => none

/-- Whether a value can be read as a record: a table has the fields by name, an array by position,
and a date or a time has none. -/
def isRecord : Toml → Bool
  | .table _ => true
  | .array _ => true
  | .moment _ => true
  | _ => false

/-- The field of a record by its position or its name. -/
def field? (position : Nat) (name : String) : Toml → Option Toml
  | .table entries => entries.lookup name
  | .array items => items[position]?
  | _ => none

def required {α : Type} (v : Toml) (position : Nat) (name : String) (read : Toml → Option α) :
    Option α :=
  (v.field? position name).bind read

def optional {α : Type} (v : Toml) (position : Nat) (name : String) (read : Toml → Option α)
    (default : α) : Option α :=
  match v.field? position name with
  | some field => read field
  | none => some default

end Toml

end PaymentBooking
