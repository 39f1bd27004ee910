import PaymentBooking.Binary64.Basic

/-! # The shortest digits of a binary number

Among the decimals that round to a binary64 number, the ones with the fewest digits are taken, and
of those the nearest to the number. Two can be equally near; which of them counts is a parameter.
-/

namespace PaymentBooking.Binary64

/-- Which of two equally near decimals is taken. -/
inductive Tie where
  | toEven
  | up
deriving DecidableEq

/-- A natural number times a power of ten. -/
structure Digits where
  number : Nat
  exponent : Int
deriving DecidableEq

/-- The exponent of the leading decimal digit of a positive ratio: the largest `p` with
`10^p ≤ num / den`. -/
def leadingExponent (r : Ratio) : Int :=
  if r.den ≤ r.num then ((Nat.toDigits 10 (r.num / r.den)).length : Int) - 1
  else -((Nat.toDigits 10 ((r.den + r.num - 1) / r.num - 1)).length : Int)

/-- The quarter steps of a number: it lies at `middle`, and what rounds to it lies between `low`
and `high`, which count if `closed`. A unit is `2 ^ unit`. -/
structure Neighbourhood where
  low : Nat
  middle : Nat
  high : Nat
  unit : Int
  closed : Bool

/-- What rounds to a number reaches halfway to its neighbours; below a power of two the lower
neighbour is nearer. -/
def neighbourhood (x : Binary64) : Neighbourhood where
  low := if x.significand = 2 ^ (52 : Nat) ∧ -1074 < x.exponent then 4 * x.significand - 1
    else 4 * x.significand - 2
  middle := 4 * x.significand
  high := 4 * x.significand + 2
  unit := x.exponent - 2
  closed := x.significand % 2 = 0

/-- Twice a number on the decimal grid of an exponent and the steps of a neighbourhood, brought
to a common unit. -/
def gridSteps (n : Nat) (exponent unit : Int) : Nat :=
  n * 10 ^ exponent.toNat * 2 ^ (-unit).toNat

def binarySteps (m : Nat) (exponent unit : Int) : Nat :=
  m * 2 ^ unit.toNat * 10 ^ (-exponent).toNat

/-- The decimal of a grid that rounds to the number and is nearest to it, if the grid has one. Only
the two neighbours of the number on the grid have to be tried. -/
def onGrid? (tie : Tie) (v : Neighbourhood) (exponent : Int) : Option Digits :=
  let grid := fun n => gridSteps n exponent v.unit
  let steps := fun m => binarySteps m exponent v.unit
  let below := steps v.middle / grid 1
  let fits := fun n =>
    if v.closed then steps v.low ≤ grid n && grid n ≤ steps v.high
    else steps v.low < grid n && grid n < steps v.high
  let gapBelow := steps v.middle - grid below
  let gapAbove := grid (below + 1) - steps v.middle
  match decide (0 < below) && fits below, fits (below + 1) with
  | false, false => none
  | true, false => some ⟨below, exponent⟩
  | false, true => some ⟨below + 1, exponent⟩
  | true, true =>
    if gapBelow < gapAbove then some ⟨below, exponent⟩
    else if gapAbove < gapBelow then some ⟨below + 1, exponent⟩
    else
      match tie with
      | .up => some ⟨below + 1, exponent⟩
      | .toEven => some ⟨if below % 2 = 0 then below else below + 1, exponent⟩

/-- Removes zeros from the end of the digits; `fuel` bounds their number. -/
def Digits.trim : (fuel : Nat) → Digits → Digits
  | 0, d => d
  | fuel + 1, d =>
    if d.number % 10 = 0 && 0 < d.number then trim fuel ⟨d.number / 10, d.exponent + 1⟩ else d

/-- The shortest digits of a number. Seventeen digits always suffice. -/
def shortest (tie : Tie) (x : Binary64) : Digits :=
  let v := x.neighbourhood
  let p := leadingExponent x.ratio
  match (List.range 17).findSome? fun (n : Nat) => onGrid? tie v (p - n) with
  | some d => d.trim 17
  | none => ⟨0, 0⟩

def Digits.leading (d : Digits) : Int := (Nat.toDigits 10 d.number).length - 1 + d.exponent

/-- Digits in positional notation, with at least one digit before the point. A point stands only
before digits. -/
def Digits.positional (d : Digits) : List Char :=
  let ds := Nat.toDigits 10 d.number
  if 0 ≤ d.exponent then ds ++ List.replicate d.exponent.toNat '0'
  else
    let places := (-d.exponent).toNat
    let padded := List.replicate (places + 1 - ds.length) '0' ++ ds
    padded.take (padded.length - places) ++ '.' :: padded.drop (padded.length - places)

def plainText (x : Binary64) : List Char :=
  let body := if x.isZero then ['0'] else (x.shortest .up).positional
  if x.negative then '-' :: body else body

end PaymentBooking.Binary64
