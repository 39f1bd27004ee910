import PaymentBooking.Job.Basic
import PaymentBooking.Text.Reader

/-! # Files of jobs

A file has one job on each line. Lines end at a line feed, with or without a carriage return before
it; the last one may lack its end. Blank lines are passed over, and a line that cannot be read does
not keep the others from being read. Lines are numbered from one.
-/

namespace PaymentBooking

/-- A line that was read: its number and its job, or why there is none. -/
structure JobLine where
  number : Nat
  job : Except Error Job

namespace JobLine

def dropReturn (line : List UInt8) : List UInt8 :=
  if line.getLast? = some 13 then line.dropLast else line

def split (bytes : List UInt8) : List (List UInt8) :=
  let pieces := bytes.splitOn 10
  let rest := (pieces.getLast?).getD []
  pieces.dropLast.map dropReturn ++ if rest.isEmpty then [] else [rest]

def decode (line : List UInt8) : Except Error String :=
  match String.fromUTF8? ⟨line.toArray⟩ with
  | some text => .ok text
  | none => .error (.io "stream did not contain valid UTF-8")

def read? (line : List UInt8) : Option (Except Error Job) :=
  match decode line with
  | .error e => some (.error e)
  | .ok text => if Text.isBlankText text then none else some (Job.read text)

def readNumbered (lines : List (List UInt8 × Nat)) : List JobLine :=
  lines.filterMap fun l => (read? l.1).map fun job => ⟨l.2, job⟩

def readAll (bytes : List UInt8) : List JobLine := readNumbered ((split bytes).zipIdx 1)

end JobLine

end PaymentBooking
