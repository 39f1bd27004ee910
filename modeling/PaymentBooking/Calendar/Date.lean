/-! # Calendar dates

Days of the Gregorian calendar, extended to all years in which dates are held. Years from 0 to
9999 are written with four digits, other years with a sign and at least four.
-/

namespace PaymentBooking

namespace Calendar

def isLeap (year : Int) : Bool := year % 4 = 0 && (year % 100 ≠ 0 || year % 400 = 0)

def daysIn (year : Int) (month : Nat) : Nat :=
  if month = 2 then if isLeap year then 29 else 28
  else if month = 4 ∨ month = 6 ∨ month = 9 ∨ month = 11 then 30
  else 31

/-- Whether a year, a month and a day are a date that is held. -/
def IsDate (year : Int) (month day : Nat) : Prop :=
  (-262143 ≤ year ∧ year ≤ 262142) ∧ (1 ≤ month ∧ month ≤ 12) ∧
    (1 ≤ day ∧ day ≤ daysIn year month)

instance (year : Int) (month day : Nat) : Decidable (IsDate year month day) :=
  inferInstanceAs (Decidable (_ ∧ _ ∧ _))

end Calendar

structure Date where
  year : Int
  month : Nat
  day : Nat
  valid : Calendar.IsDate year month day
deriving DecidableEq

namespace Date

def of? (year : Int) (month day : Nat) : Option Date :=
  if h : Calendar.IsDate year month day then some ⟨year, month, day, h⟩ else none

def padded (places n : Nat) : List Char := (Nat.toDigits 10 n).leftpad places '0'

/-- The year: four digits, or a sign and at least four. -/
def yearText (d : Date) : List Char :=
  if d.year < 0 then '-' :: padded 4 d.year.natAbs
  else if 9999 < d.year then '+' :: padded 4 d.year.natAbs
  else padded 4 d.year.natAbs

def monthText (d : Date) : List Char := padded 2 d.month

def dayText (d : Date) : List Char := padded 2 d.day

def compact (d : Date) : String := String.ofList (d.yearText ++ d.monthText ++ d.dayText)

def dashed (d : Date) : String :=
  String.ofList (d.yearText ++ '-' :: d.monthText ++ '-' :: d.dayText)

end Date

end PaymentBooking
