import PaymentBooking.Text.Numeral
import PaymentBooking.Decimal.Arithmetic

/-! # Decimals as text

A decimal is written with exactly as many digits behind the point as its scale says. It is read
from an optional sign and digits with at most one point; underscores may follow the first digit
and separate digits. Digits behind the point that have no place are dropped, rounding up when the
first of them is five or more. Where this reading fails, a base with an exponent is read.
-/

namespace PaymentBooking.Decimal

/-- The digits before the point, and the digits and underscores behind it. -/
structure Digits where
  whole : List Char
  fraction : List Char
deriving DecidableEq

/-- Separates the digits at the point. Underscores need a digit before them, a second point and
any other character are refused, and so is a text without digits. -/
def separate? (point digit : Bool) : List Char → Option Digits
  | [] => if digit then some ⟨[], []⟩ else none
  | c :: cs =>
    if c.isDigit then
      (separate? point true cs).map fun d =>
        if point then { d with fraction := c :: d.fraction } else { d with whole := c :: d.whole }
    else if c = '.' && !point then separate? true digit cs
    else if c = '_' && digit then
      (separate? point digit cs).map fun d =>
        if point then { d with fraction := c :: d.fraction } else d
    else none

def digitValue (c : Char) : Nat := c.toNat - '0'.toNat

/-- A magnitude, its scale, and the first digit that found no place in it. -/
structure Absorbed where
  magnitude : Nat
  scale : Nat
  excess : Option Char
deriving DecidableEq

/-- Below this bound one more digit fits 64 bits whatever it is, with a margin of one byte. -/
def shortBound : Nat := (2 ^ (64 : Nat) - 1) / 10 - 255

/-- Takes digits behind the point into a magnitude as long as there is a place for them. An
underscore is passed over, except behind a digit that fills the last place of a short magnitude:
there it ends the number, and no digit behind it takes part in rounding. -/
def absorb (magnitude scale : Nat) : List Char → Absorbed
  | [] => ⟨magnitude, scale, none⟩
  | c :: cs =>
    if c = '_' then absorb magnitude scale cs
    else
      let next := magnitude * 10 + digitValue c
      if scale < 28 && next < 2 ^ (96 : Nat) then
        if scale = 27 && magnitude < shortBound && cs.head? = some '_' then ⟨next, 28, none⟩
        else absorb next (scale + 1) cs
      else ⟨magnitude, scale, some c⟩

/-- Rounds up by the first digit that found no place. A magnitude that this carries to the bound
loses one more digit. -/
def Absorbed.rounded? (a : Absorbed) : Option (Nat × Nat) :=
  match a.excess with
  | none => some (a.magnitude, a.scale)
  | some c =>
    if digitValue c < 5 then some (a.magnitude, a.scale)
    else if a.magnitude + 1 < 2 ^ (96 : Nat) then some (a.magnitude + 1, a.scale)
    else
      match a.scale with
      | 0 => none
      | s + 1 => some ((a.magnitude + 5) / 10, s)

def splitSign : List Char → Bool × List Char
  | '-' :: cs => (true, cs)
  | '+' :: cs => (false, cs)
  | cs => (false, cs)

def readPlain? (cs : List Char) : Option Decimal := do
  let (negative, body) := splitSign cs
  let digits ← separate? false false body
  let whole := Nat.ofDigitChars 10 digits.whole 0
  if whole < 2 ^ (96 : Nat) then
    let (magnitude, scale) ← (absorb whole 0 digits.fraction).rounded?
    ofMagnitude? negative magnitude scale
  else none

def stripZeros (magnitude : Nat) : (scale : Nat) → Nat × Nat
  | 0 => (magnitude, 0)
  | s + 1 => if magnitude % 10 = 0 then stripZeros (magnitude / 10) s else (magnitude, s + 1)

/-- Multiplies by a power of ten in steps of at most nineteen places, fitting after each step. -/
def raise? (magnitude scale places : Nat) : Option (Nat × Nat) := do
  let (m, s) ← fit? (magnitude * 10 ^ min places 19) scale
  if places ≤ 19 then some (m, s) else fit? (m * 10 ^ (places - 19)) s

/-- Drops places from the end of a magnitude, rounding a half up. -/
def dropPlaces (magnitude : Nat) : (places : Nat) → Nat
  | 0 => magnitude
  | k + 1 => (magnitude + 5 * 10 ^ k) / 10 ^ (k + 1)

/-- Moves the point to the left, at most twenty-eight places. Digits that then lie beyond the
greatest scale are dropped; the sign stays, even if no other digit is left. -/
def shiftLeft? (d : Decimal) (places : Nat) : Option Decimal :=
  if places ≤ 28 then
    let scale := d.scale + places
    ofParts? d.negative (dropPlaces d.magnitude (scale - 28)) (min scale 28)
  else none

/-- Moves the point to the right. Within the digits behind it only the scale changes; beyond them
the magnitude grows and loses the zeros at its end that are behind the point. -/
def shiftRight? (d : Decimal) (places : Nat) : Option Decimal :=
  if places ≤ d.scale then ofParts? d.negative d.magnitude (d.scale - places)
  else if places ≤ 28 then do
    let (m, s) ← raise? d.magnitude d.scale places
    let (m, s) := stripZeros m s
    ofMagnitude? d.negative m s
  else none

def isExponentMark (c : Char) : Bool := c = 'e' || c = 'E'

def readScientific? (cs : List Char) : Option Decimal := do
  let base ← readPlain? (cs.takeWhile fun c => !isExponentMark c)
  match cs.dropWhile fun c => !isExponentMark c with
  | [] => none
  | _ :: '-' :: exponent => base.shiftLeft? (← Text.readUnsigned? exponent)
  | _ :: exponent => base.shiftRight? (← Text.readUnsigned? exponent)

/-- Reads a decimal, without an exponent if possible. -/
def read? (s : String) : Option Decimal := readPlain? s.toList <|> readScientific? s.toList

def fractionDigits (places n : Nat) : List Char := (Nat.toDigits 10 n).leftpad places '0'

def magnitudeText (magnitude scale : Nat) : List Char :=
  Nat.toDigits 10 (magnitude / 10 ^ scale) ++
    if scale = 0 then [] else '.' :: fractionDigits scale (magnitude % 10 ^ scale)

def text (d : Decimal) : String :=
  let body := magnitudeText d.magnitude d.scale
  String.ofList (if d.negative then '-' :: body else body)

instance : ToString Decimal := ⟨text⟩

end PaymentBooking.Decimal
