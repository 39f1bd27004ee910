import PaymentBooking.Binary64.Basic
import PaymentBooking.Json.Reader
import PaymentBooking.Text.Numeral
import PaymentBooking.Text.Reader
import PaymentBooking.Toml.Value

/-! # TOML numbers

Digits may be separated by single underscores. A whole number has 64 bits and may be written to
the base 16, 8 or 2; a real number is the binary64 number nearest to what is written. A positive
real number beyond the largest finite one is refused, a negative one counts as infinite.
-/

namespace PaymentBooking

namespace Binary64

/-- The number nearest to a natural number times a power of ten, if it is finite. Exponents that
leave no doubt are not worked out. -/
def ofScaled? (negative : Bool) (n : Nat) (exponent : Int) : Option Binary64 :=
  let leading := (Nat.toDigits 10 n).length + exponent
  if n = 0 ∨ leading < -400 then some (zero negative)
  else if 400 < leading then none
  else ofRatio? negative ⟨n * 10 ^ exponent.toNat, 10 ^ (-exponent).toNat⟩

end Binary64

namespace Toml

open PaymentBooking.Text (Reader word)

def moreDigits (isDigit : Char → Bool) : Reader (List Char)
  | '_' :: c :: cs =>
    if isDigit c then (moreDigits isDigit cs).map fun (ds, rest) => (c :: ds, rest) else none
  | c :: cs =>
    if isDigit c then (moreDigits isDigit cs).map fun (ds, rest) => (c :: ds, rest)
    else if c = '_' then none
    else some ([], c :: cs)
  | [] => some ([], [])

def someDigits (isDigit : Char → Bool) : Reader (List Char)
  | c :: cs =>
    if isDigit c then (moreDigits isDigit cs).map fun (ds, rest) => (c :: ds, rest) else none
  | [] => none

/-- Reads the digits of a whole number: a single zero, or digits that begin with another one. -/
def wholeDigits : Reader (List Char)
  | '0' :: cs => some (['0'], cs)
  | cs => someDigits Char.isDigit cs

def sign : List Char → Bool × List Char := Decimal.splitSign

def integerOf? (negative : Bool) (base : Nat) (ds : List Char) : Option Toml := do
  let values ← ds.mapM Text.hexValue?
  let n : Int := (values.foldl (fun n d => n * base + d) 0 : Nat)
  let n := if negative then -n else n
  if Text.fitsWord n then some (.integer (Int64.ofInt n)) else none

def readExponent (cs : List Char) : Option (Int × List Char) :=
  let (negative, cs) := sign cs
  (someDigits Char.isDigit cs).map fun (ds, rest) =>
    let n : Int := Nat.ofDigitChars 10 ds 0
    (if negative then -n else n, rest)

def readExponentIfAny : Reader (Option Int)
  | 'e' :: cs => (readExponent cs).map fun (e, rest) => (some e, rest)
  | 'E' :: cs => (readExponent cs).map fun (e, rest) => (some e, rest)
  | cs => some (none, cs)

def readFractionIfAny : Reader (List Char)
  | '.' :: cs => someDigits Char.isDigit cs
  | cs => some ([], cs)

def realOf? (negative : Bool) (whole fraction : List Char) (exponent : Int) : Option Toml :=
  let n := Nat.ofDigitChars 10 (whole ++ fraction) 0
  match Binary64.ofScaled? negative n (exponent - fraction.length) with
  | some x => some (.real (some x))
  | none => if negative then some (.real none) else none

def readDecimal (cs : List Char) : Option (Toml × List Char) := do
  let (negative, cs) := sign cs
  let (whole, cs) ← wholeDigits cs
  let (fraction, cs) ← readFractionIfAny cs
  let (exponent, cs) ← readExponentIfAny cs
  if fraction.isEmpty ∧ exponent.isNone then some (← integerOf? negative 10 whole, cs)
  else some (← realOf? negative whole fraction (exponent.getD 0), cs)

def isDigitTo (base : Nat) (c : Char) : Bool := (Text.hexValue? c).any fun d => d < base

def readBased (base : Nat) (cs : List Char) : Option (Toml × List Char) := do
  let (ds, cs) ← someDigits (isDigitTo base) cs
  some (← integerOf? false base ds, cs)

def readSpecial (cs : List Char) : Option (Toml × List Char) :=
  let (_, cs) := sign cs
  (word ['i', 'n', 'f'] cs <|> word ['n', 'a', 'n'] cs).map fun (_, rest) => (.real none, rest)

def readNumber : Reader Toml
  | '0' :: 'x' :: cs => readBased 16 cs
  | '0' :: 'o' :: cs => readBased 8 cs
  | '0' :: 'b' :: cs => readBased 2 cs
  | cs => readDecimal cs <|> readSpecial cs

end Toml

end PaymentBooking
