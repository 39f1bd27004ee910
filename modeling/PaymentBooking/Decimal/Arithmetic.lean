import PaymentBooking.Rounding
import PaymentBooking.Decimal.Basic

/-! # Sums of decimals

A sum has the larger scale of its two operands, but a zero adds nothing at all, digits included,
and the sum of two opposite numbers is a zero without a sign.
If the exact coefficient needs more than 96 bits, as few digits as possible are dropped from its
end, rounding to the nearest and a half to the even neighbour; a sum that needs more than 96 bits
with no digit behind the point has no result.
-/

namespace PaymentBooking.Decimal

/-- The arithmetic operations that can leave the range of decimals. -/
inductive Operation where
  | addition
  | subtraction
deriving DecidableEq

def Operation.overflowMessage : Operation → String
  | .addition => "Addition overflowed"
  | .subtraction => "Subtraction overflowed"

/-- Drops one more digit from a magnitude that rounding has carried to the bound. -/
def settle? (magnitude scale : Nat) : Option (Nat × Nat) :=
  if magnitude < 2 ^ (96 : Nat) then some (magnitude, scale)
  else
    match scale with
    | 0 => none
    | s + 1 => some (divEven magnitude 10, s)

/-- Drops digits from the end of a magnitude, `dropped` so far, until it fits; `scale` is the
number of digits that are left behind the point. -/
def fitFrom? (magnitude dropped : Nat) : (scale : Nat) → Option (Nat × Nat)
  | 0 =>
    if magnitude / 10 ^ dropped < 2 ^ (96 : Nat) then settle? (divEven magnitude (10 ^ dropped)) 0
    else none
  | s + 1 =>
    if magnitude / 10 ^ dropped < 2 ^ (96 : Nat) then
      settle? (divEven magnitude (10 ^ dropped)) (s + 1)
    else fitFrom? magnitude (dropped + 1) s

/-- The nearest magnitude and scale that fit a decimal, with as few digits dropped as possible. -/
def fit? (magnitude scale : Nat) : Option (Nat × Nat) := fitFrom? magnitude 0 scale

/-- The coefficient of a decimal at a scale that is not smaller than its own. -/
def coefficientAt (d : Decimal) (scale : Nat) : Int := d.coefficient * 10 ^ (scale - d.scale)

/-- The exact sum at the larger scale, before any digit is dropped. -/
def exactSum (a b : Decimal) : Int × Nat :=
  let scale := max a.scale b.scale
  (a.coefficientAt scale + b.coefficientAt scale, scale)

/-- The nearest decimal to a coefficient at a scale, if it is in range. -/
def round? (n : Int) (scale : Nat) : Option Decimal :=
  (fit? n.natAbs scale).bind fun (m, s) => ofMagnitude? (n < 0) m s

def add? (a b : Decimal) : Option Decimal :=
  if a.isZero then some b
  else if b.isZero then some a
  else round? (exactSum a b).1 (exactSum a b).2

def sub? (a b : Decimal) : Option Decimal := add? a b.negate

theorem settle?_of_lt {m s : Nat} (h : m < 2 ^ (96 : Nat)) : settle? m s = some (m, s) := if_pos h

theorem fit?_of_lt {m s : Nat} (h : m < 2 ^ (96 : Nat)) : fit? m s = some (m, s) := by
  have hdiv : m / 10 ^ 0 < 2 ^ (96 : Nat) := by rwa [Nat.pow_zero, Nat.div_one]
  have heven : divEven m (10 ^ 0) = m := by rw [Nat.pow_zero, divEven_one]
  cases s with
  | zero => rw [fit?, fitFrom?, if_pos hdiv, heven, settle?_of_lt h]
  | succ s => rw [fit?, fitFrom?, if_pos hdiv, heven, settle?_of_lt h]

end PaymentBooking.Decimal
