import PaymentBooking.Rounding

/-! # Binary numbers of 64 bits

The finite binary64 numbers: a sign and a significand of at most 53 bits times a power of two.
Every result is the exact one rounded to the nearest such number, a half to the even significand;
a result beyond the largest finite number has none.
-/

namespace PaymentBooking

/-- A finite binary64 number. The significand is full unless the exponent is the smallest one, so
each number, both zeros included, has one form. -/
structure Binary64 where
  negative : Bool
  significand : Nat
  exponent : Int
  significand_lt : significand < 2 ^ (53 : Nat)
  exponent_mem : -1074 ≤ exponent ∧ exponent ≤ 971
  full : 2 ^ (52 : Nat) ≤ significand ∨ exponent = -1074
deriving DecidableEq

namespace Binary64

def ofParts? (negative : Bool) (significand : Nat) (exponent : Int) : Option Binary64 :=
  if h : significand < 2 ^ (53 : Nat) ∧ (-1074 ≤ exponent ∧ exponent ≤ 971) ∧
      (2 ^ (52 : Nat) ≤ significand ∨ exponent = -1074) then
    some ⟨negative, significand, exponent, h.1, h.2.1, h.2.2⟩
  else none

def zero (negative : Bool) : Binary64 := ⟨negative, 0, -1074, by decide, by decide, .inr rfl⟩

instance : Inhabited Binary64 := ⟨zero false⟩

def isZero (x : Binary64) : Bool := x.significand = 0

/-- A numerator and a denominator. -/
structure Ratio where
  num : Nat
  den : Nat

def Ratio.scaled (n : Nat) (e : Int) : Ratio := ⟨n * 2 ^ e.toNat, 2 ^ (-e).toNat⟩

def ratio (x : Binary64) : Ratio := .scaled x.significand x.exponent

/-- The exponent at which the nearest significand of a positive ratio is full, or the smallest
one. The difference of the binary lengths leaves two candidates. -/
def exponentOf (r : Ratio) : Int :=
  let e := max ((Nat.log2 r.num : Int) - Nat.log2 r.den - 53) (-1074)
  if 2 ^ (53 : Nat) * r.den * 2 ^ e.toNat ≤ r.num * 2 ^ (-e).toNat then e + 1 else e

def ofRatio? (negative : Bool) (r : Ratio) : Option Binary64 :=
  if r.num = 0 then some (zero negative)
  else
    let e := exponentOf r
    let m := divEven (r.num * 2 ^ (-e).toNat) (r.den * 2 ^ e.toNat)
    if m = 2 ^ (53 : Nat) then ofParts? negative (2 ^ (52 : Nat)) (e + 1) else ofParts? negative m e

def ofNat? (negative : Bool) (n : Nat) : Option Binary64 := ofRatio? negative ⟨n, 1⟩

def mul? (x y : Binary64) : Option Binary64 :=
  ofRatio? (x.negative != y.negative) ⟨x.ratio.num * y.ratio.num, x.ratio.den * y.ratio.den⟩

def div? (x y : Binary64) : Option Binary64 :=
  if y.isZero then none
  else
    ofRatio? (x.negative != y.negative) ⟨x.ratio.num * y.ratio.den, x.ratio.den * y.ratio.num⟩

end Binary64

end PaymentBooking
