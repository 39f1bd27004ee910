import PaymentBooking.Binary64.Shortest

/-! # JSON numbers

A JSON number is a whole number of 64 bits, signed or unsigned, or else a binary64 number. A real
number is written with its shortest digits and shows by a point or an exponent that it is no whole
number: positionally when its leading digit stands at an exponent from -5 to 15, with a signed
exponent otherwise.
-/

namespace PaymentBooking.Json

/-- A whole number that fits a signed or an unsigned word of 64 bits. -/
structure Whole where
  value : Int
  lower : -2 ^ (63 : Nat) ≤ value
  upper : value < 2 ^ (64 : Nat)
deriving DecidableEq

inductive Number where
  | whole (n : Whole)
  | real (x : Binary64)
deriving DecidableEq

namespace Number

def ofInt64 (n : Int64) : Number :=
  .whole ⟨n.toInt, n.le_toInt, Int.lt_trans n.toInt_lt (by decide)⟩

def ofUInt64 (n : UInt64) : Number :=
  .whole ⟨n.toNat, by omega, by have := n.toNat_lt; omega⟩

def ofInt? (n : Int) : Option Number :=
  if h : -2 ^ (63 : Nat) ≤ n ∧ n < 2 ^ (64 : Nat) then some (.whole ⟨n, h.1, h.2⟩) else none

def toInt64? : Number → Option Int64
  | .whole n => if n.value < 2 ^ (63 : Nat) then some (Int64.ofInt n.value) else none
  | .real _ => none

def toUInt64? : Number → Option UInt64
  | .whole n => if 0 ≤ n.value then some (UInt64.ofNat n.value.toNat) else none
  | .real _ => none

/-- The exponents of the leading digit that are written positionally. -/
def isPositional (leading : Int) : Bool := -5 ≤ leading && leading ≤ 15

/-- Digits with an exponent: one digit before the point, a point only before digits, and an
exponent that always has a sign. -/
def scientific (d : Binary64.Digits) : List Char :=
  let exponent := d.leading
  let sign := if exponent < 0 then '-' else '+'
  let size := Nat.toDigits 10 exponent.natAbs
  match Nat.toDigits 10 d.number with
  | [] => []
  | [c] => c :: 'e' :: sign :: size
  | c :: cs => c :: '.' :: cs ++ 'e' :: sign :: size

def realText (x : Binary64) : List Char :=
  if x.isZero then ['0', '.', '0']
  else
    let d := x.shortest .toEven
    if isPositional d.leading then
      if 0 ≤ d.exponent then d.positional ++ ['.', '0'] else d.positional
    else scientific d

def text : Number → List Char
  | .whole n => (toString n.value).toList
  | .real x => if x.negative then '-' :: realText x else realText x

theorem toInt64?_ofInt64 (n : Int64) : (ofInt64 n).toInt64? = some n := by
  have h : n.toInt < 2 ^ (63 : Nat) := n.toInt_lt
  simp only [ofInt64, toInt64?, h, if_true, Int64.ofInt_toInt]

end Number

end PaymentBooking.Json
