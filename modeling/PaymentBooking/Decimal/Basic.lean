import PaymentBooking.Rounding

/-! # Decimal numbers of 96 bits

A decimal is a signed magnitude of at most 96 bits divided by a power of ten of at most 28. The
scale is part of the number as it is written, so `1.50` and `1.5` are two decimals of one value.
Order compares values. A zero can carry the sign of the number whose digits have all been dropped;
its value, and with it every comparison and sum, is that of any other zero.
-/

namespace PaymentBooking

/-- A sign, a magnitude, and the number of its digits behind the point. -/
structure Decimal where
  negative : Bool
  magnitude : Nat
  scale : Nat
  magnitude_lt : magnitude < 2 ^ (96 : Nat)
  scale_le : scale ≤ 28
deriving DecidableEq

namespace Decimal

def ofParts? (negative : Bool) (magnitude scale : Nat) : Option Decimal :=
  if h : magnitude < 2 ^ (96 : Nat) ∧ scale ≤ 28 then some ⟨negative, magnitude, scale, h.1, h.2⟩
  else none

/-- The decimal of a sign, a magnitude and a scale, if they are in range; a magnitude of zero takes
no sign. -/
def ofMagnitude? (negative : Bool) (magnitude scale : Nat) : Option Decimal :=
  ofParts? (negative && magnitude ≠ 0) magnitude scale

def ofInt? (n : Int) : Option Decimal := ofMagnitude? (n < 0) n.natAbs 0

def zero : Decimal := ⟨false, 0, 0, by decide, by decide⟩

instance : Inhabited Decimal := ⟨zero⟩

def coefficient (d : Decimal) : Int := if d.negative then -(d.magnitude : Int) else d.magnitude

def toRat (d : Decimal) : Rat := d.coefficient / (10 : Rat) ^ d.scale

def isZero (d : Decimal) : Bool := d.magnitude = 0

def isPositive (d : Decimal) : Bool := 0 < d.coefficient

def isNegative (d : Decimal) : Bool := d.coefficient < 0

/-- Whether the value of one decimal is below that of another, compared at a common scale. -/
def isLess (a b : Decimal) : Bool :=
  a.coefficient * 10 ^ b.scale < b.coefficient * 10 ^ a.scale

/-- The decimal of opposite value and the same scale. A zero is its own opposite. -/
def negate (d : Decimal) : Decimal :=
  { d with negative := if d.isZero then d.negative else !d.negative }

theorem isZero_iff {d : Decimal} : d.isZero ↔ d.coefficient = 0 := by
  simp only [isZero, coefficient, decide_eq_true_eq]
  split <;> omega

theorem natAbs_coefficient (d : Decimal) : d.coefficient.natAbs = d.magnitude := by
  simp only [coefficient]
  split <;> omega

theorem coefficient_negate (d : Decimal) : d.negate.coefficient = -d.coefficient := by
  obtain ⟨n, m, s, hm, hs⟩ := d
  cases n <;> by_cases hz : m = 0 <;> simp [negate, isZero, coefficient, hz]

theorem ofParts?_self (d : Decimal) : ofParts? d.negative d.magnitude d.scale = some d :=
  dif_pos ⟨d.magnitude_lt, d.scale_le⟩

theorem ofParts?_eq_some_iff {n : Bool} {m s : Nat} {d : Decimal} :
    ofParts? n m s = some d ↔ d.negative = n ∧ d.magnitude = m ∧ d.scale = s := by
  constructor
  · intro h
    simp only [ofParts?] at h
    split at h
    · rw [← Option.some.inj h]; exact ⟨rfl, rfl, rfl⟩
    · simp at h
  · rintro ⟨rfl, rfl, rfl⟩
    exact ofParts?_self d

end Decimal

end PaymentBooking
