import PaymentBooking.Reading.Value

/-! # Readers of records

A record is read out of named values. The members are visited in the order of their names, and the
first one that is a field with a bad value is reported; after that the first required field that
is missing, in the order in which the fields are declared. Members that are no fields are passed
over.
-/

namespace PaymentBooking.Reading

/-- A field: its name, the other names it goes by, and what is wrong with a value for it. -/
structure Field where
  name : String
  aliases : List String
  fault? : Json → Option Fault

def Field.accepts (f : Field) (name : String) : Bool := f.name = name || f.aliases.contains name

def faultOf? {α : Type} (read : ValueReader α) (value : Json) : Option Fault :=
  match read value with
  | .ok _ => none
  | .error fault => some fault

/-- A list of fields and a way to build the record once their values have been checked. -/
structure RecordReader (α : Type) where
  fields : List Field
  build : Variables → Except Fault α

namespace RecordReader

/-- Visits members in order and gives the first fault. A field that has been `seen` before, under
whatever name, may not occur again. -/
def checkMembers (fields : List Field) (seen : List String) : List (String × Json) → Option Fault
  | [] => none
  | (name, value) :: members =>
    match fields.find? fun f => f.accepts name with
    | none => checkMembers fields seen members
    | some f =>
      if seen.contains f.name then some (.duplicateField f.name)
      else
        match f.fault? value with
        | some fault => some fault
        | none => checkMembers fields (f.name :: seen) members

def run {α : Type} (r : RecordReader α) (values : Variables) : Except Fault α :=
  match checkMembers r.fields [] values.toList with
  | some fault => .error fault
  | none => r.build values

/-- The value of the first of several names that has one. -/
def lookup? (values : Variables) (names : List String) : Option Json :=
  names.findSome? values.find?

/-- A field that has to be there, possibly under another name. -/
def requiredAs {α : Type} (name : String) (aliases : List String) (read : ValueReader α) :
    RecordReader α where
  fields := [⟨name, aliases, faultOf? read⟩]
  build values :=
    match lookup? values (name :: aliases) with
    | some value => read value
    | none => .error (.missingField name)

def required {α : Type} (name : String) (read : ValueReader α) : RecordReader α :=
  requiredAs name [] read

def nullable {α : Type} (read : ValueReader α) : ValueReader (Option α)
  | .null => .ok none
  | value => (read value).map some

/-- A field that may be missing or `null`. -/
def optional {α : Type} (name : String) (read : ValueReader α) : RecordReader (Option α) where
  fields := [⟨name, [], faultOf? (nullable read)⟩]
  build values :=
    match values.find? name with
    | some value => nullable read value
    | none => .ok none

instance : Applicative RecordReader where
  pure a := ⟨[], fun _ => .ok a⟩
  seq f x :=
    let x := x ()
    ⟨f.fields ++ x.fields, fun values => do
      let g ← f.build values
      let a ← x.build values
      .ok (g a)⟩

def checkItems : List Field → List Json → Option Fault
  | f :: fields, value :: values =>
    match f.fault? value with
    | some fault => some fault
    | none => checkItems fields values
  | _, _ => none

/-- Reads a record without optional fields out of a JSON value: an object, or an array of the
values of the fields in their order. `what` names the record in messages. -/
def ofJson {α : Type} (r : RecordReader α) (what : String) : ValueReader α
  | .object members => r.run (Dict.ofList members)
  | .array items =>
    match checkItems r.fields items with
    | some fault => .error fault
    | none =>
      if items.length < r.fields.length then
        .error (.wrongLength items.length
          (what ++ " with " ++ toString r.fields.length ++ " elements"))
      else if r.fields.length < items.length then
        .error (.wrongLength items.length "fewer elements in array")
      else r.build (Dict.ofList ((r.fields.map Field.name).zip items))
  | value => .error (wrongType value what)

end RecordReader

end PaymentBooking.Reading
