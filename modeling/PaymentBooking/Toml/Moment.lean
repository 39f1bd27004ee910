import PaymentBooking.Calendar.Moment
import PaymentBooking.Text.Reader

/-! # TOML dates and times

A date of the calendar, a time of day, or both with a `T` or a blank between them. Only a time
behind a date can have an offset. Of a fraction of a second nine digits count.
-/

namespace PaymentBooking.Toml

open PaymentBooking.Text (Reader digits twoDigits exactly oneOf)

def readDate : Reader Date := fun cs => do
  let (year, cs) ← digits 4 4 cs
  let (_, cs) ← exactly '-' cs
  let (month, cs) ← digits 2 2 cs
  let (_, cs) ← exactly '-' cs
  let (day, cs) ← digits 2 2 cs
  (Date.of? year month day).map fun d => (d, cs)

/-- The digits of a fraction that count: the first nine, without the zeros at their end. -/
def fractionOf (ds : List Char) : List Char :=
  ((ds.take 9).reverse.dropWhile (· = '0')).reverse

def readFraction : Reader (List Char)
  | '.' :: cs =>
    let ds := cs.takeWhile Char.isDigit
    if ds.isEmpty then none else some (fractionOf ds, cs.drop ds.length)
  | cs => some ([], cs)

def readTime : Reader TimeOfDay := fun cs => do
  let (hour, cs) ← digits 2 2 cs
  let (_, cs) ← exactly ':' cs
  let (minute, cs) ← digits 2 2 cs
  let (_, cs) ← exactly ':' cs
  let (second, cs) ← digits 2 2 cs
  let (fraction, cs) ← readFraction cs
  (TimeOfDay.of? hour minute second fraction).map fun t => (t, cs)

def readMinutes : Reader Nat := fun cs => do
  let (hours, cs) ← twoDigits 0 23 cs
  let (_, cs) ← exactly ':' cs
  let (minutes, cs) ← twoDigits 0 59 cs
  some (hours * 60 + minutes, cs)

def readOffset : Reader Offset
  | '+' :: cs => (readMinutes cs).map fun (n, cs) => (.minutes n, cs)
  | '-' :: cs => (readMinutes cs).map fun (n, cs) => (.minutes (-(n : Int)), cs)
  | cs => (oneOf ['Z', 'z'] cs).map fun (_, cs) => (.universal, cs)

def optionally {α : Type} (read : Reader α) (cs : List Char) : Option α × List Char :=
  match read cs with
  | some (v, rest) => (some v, rest)
  | none => (none, cs)

def readTimeOfDate : Reader (TimeOfDay × Option Offset) := fun cs => do
  let (_, cs) ← oneOf ['T', 't', ' '] cs
  let (time, cs) ← readTime cs
  let (offset, cs) := optionally readOffset cs
  some ((time, offset), cs)

def readMoment : Reader Moment := fun cs =>
  match readDate cs with
  | some (d, cs) =>
    match optionally readTimeOfDate cs with
    | (some (t, offset), cs) => some (.dateTime d t offset, cs)
    | (none, cs) => some (.date d, cs)
  | none => (readTime cs).map fun (t, cs) => (.time t, cs)

end PaymentBooking.Toml
