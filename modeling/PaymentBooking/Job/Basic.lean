import PaymentBooking.Error
import PaymentBooking.Json.Reader

/-! # Jobs

A job has a key, a type that names its stage, and variables. It is read from one line of JSON: an
object with these members, or an array of their values. A member of another name has to be well
formed and counts for nothing else.
-/

namespace PaymentBooking

structure Job where
  key : UInt64
  type : String
  vars : Variables

namespace Job

open Json

def keyOf? : Raw → Option UInt64
  | .number n => n.number?.bind Number.toUInt64?
  | _ => none

def typeOf? : Raw → Option String
  | .text units => Raw.textOf? units
  | _ => none

/-- The variables that a value is. They are nested in the job, which takes one level. -/
def variablesOf? (raw : Raw) : Option Variables :=
  match raw.valueWithin? (Raw.maxDepth - 1) with
  | some (.object members) => some (.ofList members)
  | _ => none

def orDefault {α : Type} (read : Raw → Option α) (default : α) : Option Raw → Option α
  | some raw => read raw
  | none => some default

def ofParts? (key type vars : Option Raw) : Option Job := do
  let key ← orDefault keyOf? 0 key
  let type ← type.bind typeOf?
  let vars ← orDefault variablesOf? .empty vars
  some ⟨key, type, vars⟩

def namedMembers? (members : List (List TextUnit × Raw)) : Option (List (String × Raw)) :=
  members.mapM fun m => (Raw.textOf? m.1).map fun name => (name, m.2)

def occursOnce (members : List (String × Raw)) (name : String) : Bool :=
  (members.filter fun m => m.1 = name).length ≤ 1

/-- The job of the members of an object; none of its own may be given twice. -/
def ofMembers? (members : List (String × Raw)) : Option Job :=
  if ["key", "type", "variables"].all (occursOnce members) then
    ofParts? (members.lookup "key") (members.lookup "type") (members.lookup "variables")
  else none

def ofRaw? : Raw → Option Job
  | .object members => (namedMembers? members).bind ofMembers?
  | .array [key, type] => ofParts? (some key) (some type) none
  | .array [key, type, vars] => ofParts? (some key) (some type) (some vars)
  | _ => none

def read (line : String) : Except Error Job :=
  match (readRaw? line).bind ofRaw? with
  | some job => .ok job
  | none => .error .json

end Job

end PaymentBooking
