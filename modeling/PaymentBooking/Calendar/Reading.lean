import PaymentBooking.Text.Reader
import PaymentBooking.Calendar.Date

/-! # Reading dates

Dates and times as messages give them. The internet form (RFC 3339) has fixed widths and ends in
an offset; the two other forms are lenient about widths, blanks and the sign of the year. The day
is the one that is written: an offset is checked and does not move it.
-/

namespace PaymentBooking.Calendar

open Text

def loose : Reader Nat := fun cs => digits 1 2 (dropBlank cs)

/-- Reads a year with blanks before it: up to four digits, or a sign and any number of them. -/
def looseYear : Reader Int := fun cs =>
  match dropBlank cs with
  | '-' :: cs => (digits 1 cs.length cs).map fun (n, cs) => (-(n : Int), cs)
  | '+' :: cs => (digits 1 cs.length cs).map fun (n, cs) => ((n : Int), cs)
  | cs => (digits 1 4 cs).map fun (n, cs) => ((n : Int), cs)

/-- A time of day is checked and then forgotten; a minute may have a second more. -/
def checkTime (hour minute second : Nat) : Option Unit :=
  if hour < 24 ∧ minute < 60 ∧ second ≤ 60 then some () else none

def secondFraction : Reader Unit
  | '.' :: cs => (digits 1 cs.length cs).map fun (_, cs) => ((), cs)
  | cs => some ((), cs)

/-- Reads the offset from universal time: `Z`, or a sign, hours, a colon and minutes. The sign may
be the minus sign proper. -/
def offset : Reader Unit
  | [] => none
  | c :: cs =>
    if c = 'Z' ∨ c = 'z' then some ((), cs)
    else if c = '+' ∨ c = '-' ∨ c = '\u2212' then do
      let (hours, cs) ← digits 2 2 cs
      let (_, cs) ← exactly ':' cs
      let (minutes, cs) ← digits 2 2 cs
      if hours < 24 ∧ minutes < 60 then some ((), cs) else none
    else none

def internetDate? (cs : List Char) : Option Date := do
  let (year, cs) ← digits 4 4 cs
  let (_, cs) ← exactly '-' cs
  let (month, cs) ← digits 2 2 cs
  let (_, cs) ← exactly '-' cs
  let (day, cs) ← digits 2 2 cs
  let (_, cs) ← oneOf ['T', 't', ' '] cs
  let (hour, cs) ← digits 2 2 cs
  let (_, cs) ← exactly ':' cs
  let (minute, cs) ← digits 2 2 cs
  let (_, cs) ← exactly ':' cs
  let (second, cs) ← digits 2 2 cs
  let (_, cs) ← secondFraction cs
  let (_, cs) ← offset cs
  checkTime hour minute second
  if cs.isEmpty then Date.of? year month day else none

def looseDay : Reader (Int × Nat × Nat) := fun cs => do
  let (year, cs) ← looseYear cs
  let (_, cs) ← exactly '-' cs
  let (month, cs) ← loose cs
  let (_, cs) ← exactly '-' cs
  let (day, cs) ← loose cs
  some ((year, month, day), cs)

def localDate? (cs : List Char) : Option Date := do
  let ((year, month, day), cs) ← looseDay cs
  let (_, cs) ← exactly 'T' cs
  let (hour, cs) ← loose cs
  let (_, cs) ← exactly ':' cs
  let (minute, cs) ← loose cs
  let (_, cs) ← exactly ':' cs
  let (second, cs) ← loose cs
  let (_, cs) ← secondFraction cs
  checkTime hour minute second
  if cs.isEmpty then Date.of? year month day else none

def plainDate? (cs : List Char) : Option Date := do
  let ((year, month, day), cs) ← looseDay cs
  if cs.isEmpty then Date.of? year month day else none

def dayOf? (s : String) : Option Date :=
  internetDate? s.toList <|> localDate? s.toList <|> plainDate? s.toList

end PaymentBooking.Calendar
