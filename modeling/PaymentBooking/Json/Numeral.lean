import PaymentBooking.Json.Number

/-! # The numbers that JSON numerals stand for

A numeral without point and exponent that fits a word of 64 bits is a whole number. Any other one
is a real number: its leading digits are taken into a significand of 64 bits as far as they fit,
the digits behind them count as zeros, and the significand, rounded to binary64, is multiplied or
divided by a rounded power of ten. This is within a few units of the last place of the numeral's
exact value. Minus zero is real, and a real number beyond the largest finite one has no value.
-/

namespace PaymentBooking.Json

/-- The sign and the digits of an exponent. -/
structure Exponent where
  negative : Bool
  digits : List Char
deriving DecidableEq

/-- A number as it is written. There are digits behind a point exactly if there is a point. -/
structure Numeral where
  negative : Bool
  whole : List Char
  fraction : List Char
  exponent : Option Exponent
deriving DecidableEq

namespace Numeral

/-- Takes digits into a significand while it stays below `2^64`; gives the digits left over. -/
def absorb (significand : Nat) : List Char → Nat × List Char
  | [] => (significand, [])
  | c :: cs =>
    let next := significand * 10 + (c.toNat - '0'.toNat)
    if next < 2 ^ (64 : Nat) then absorb next cs else (significand, c :: cs)

def powerOfTen? (n : Nat) : Option Binary64 := Binary64.ofNat? false (10 ^ n)

/-- Divides by a power of ten, in steps of 308 places if there are more. -/
def divideByPower? (x : Binary64) (places : Nat) : Option Binary64 :=
  if places ≤ 308 then (powerOfTen? places).bind x.div?
  else if x.isZero then some x
  else (powerOfTen? 308).bind fun p => (x.div? p).bind fun y => divideByPower? y (places - 308)
termination_by places

def multiplyByPower? (x : Binary64) (places : Nat) : Option Binary64 :=
  if places ≤ 308 then (powerOfTen? places).bind x.mul?
  else if x.isZero then some x
  else none

def real? (negative : Bool) (significand : Nat) (exponent : Int) : Option Binary64 :=
  (Binary64.ofNat? negative significand).bind fun x =>
    if exponent < 0 then divideByPower? x exponent.natAbs else multiplyByPower? x exponent.natAbs

/-- The real number of a significand, the exponent that its digits give it and the written
exponent. A written exponent of more than 31 bits is past every finite number. -/
def scaled? (negative : Bool) (significand : Nat) (exponent : Int) (e : Exponent) :
    Option Binary64 :=
  let size := Nat.ofDigitChars 10 e.digits 0
  if size < 2 ^ (31 : Nat) then
    real? negative significand (if e.negative then exponent - size else exponent + size)
  else if significand ≠ 0 ∧ !e.negative then none
  else some (.zero negative)

/-- A whole number without digits left over, if it fits a word; minus zero does not count. -/
def whole? (negative : Bool) (significand : Nat) : Option Number :=
  if negative then
    if significand = 0 ∨ 2 ^ (63 : Nat) < significand then none
    else Number.ofInt? (-(significand : Int))
  else Number.ofInt? significand

def number? (n : Numeral) : Option Number :=
  let (significand, dropped) := absorb 0 n.whole
  let real := fun (s : Nat) (exponent : Int) =>
    match n.exponent with
    | none => (real? n.negative s exponent).map .real
    | some e => (scaled? n.negative s exponent e).map .real
  if n.fraction.isEmpty then
    if dropped.isEmpty ∧ n.exponent.isNone then
      whole? n.negative significand <|> real significand 0
    else real significand dropped.length
  else
    let (s, rest) := absorb significand n.fraction
    real s ((dropped.length : Int) + rest.length - n.fraction.length)

end Numeral

end PaymentBooking.Json
