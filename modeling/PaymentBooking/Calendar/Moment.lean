import PaymentBooking.Calendar.Date

/-! # Moments

A date, a time of day, or both with or without an offset from universal time. The written form is
uniform: a `T` between date and time, the digits of a fraction without zeros at their end, and a `Z`
or a signed offset in hours and minutes.
-/

namespace PaymentBooking

/-- A time of day. The second can be a leap second; its fraction is given by digits. -/
structure TimeOfDay where
  hour : Nat
  minute : Nat
  second : Nat
  fraction : List Char
  valid : hour < 24 ∧ minute < 60 ∧ second ≤ 60
deriving DecidableEq

def TimeOfDay.of? (hour minute second : Nat) (fraction : List Char) : Option TimeOfDay :=
  if h : hour < 24 ∧ minute < 60 ∧ second ≤ 60 then some ⟨hour, minute, second, fraction, h⟩
  else none

/-- Where local time stands to universal time. -/
inductive Offset where
  | universal
  | minutes (n : Int)
deriving DecidableEq

/-- A date, a time of day, or both. -/
inductive Moment where
  | date (d : Date)
  | time (t : TimeOfDay)
  | dateTime (d : Date) (t : TimeOfDay) (offset : Option Offset)
deriving DecidableEq

def TimeOfDay.chars (t : TimeOfDay) : List Char :=
  Date.padded 2 t.hour ++ ':' :: Date.padded 2 t.minute ++ ':' :: Date.padded 2 t.second ++
    if t.fraction.isEmpty then [] else '.' :: t.fraction

def Offset.chars : Offset → List Char
  | .universal => ['Z']
  | .minutes n =>
    (if n < 0 then '-' else '+') :: Date.padded 2 (n.natAbs / 60) ++
      ':' :: Date.padded 2 (n.natAbs % 60)

def Moment.text : Moment → String
  | .date d => d.dashed
  | .time t => String.ofList t.chars
  | .dateTime d t offset =>
    d.dashed ++ String.ofList ('T' :: t.chars ++ (offset.map Offset.chars).getD [])

end PaymentBooking
