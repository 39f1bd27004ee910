import PaymentBooking.Json.Raw
import PaymentBooking.Text.Numeral

/-! # Reading JSON text

A text is read by its grammar alone: values with blanks around them, no comments, no comma before
a closing bracket, no leading zeros, and nothing behind the value. Each reader takes the front of
a list of characters and gives what follows. The readers of nested values carry fuel; a text never
needs more than twice its length.
-/

namespace PaymentBooking.Json

def isBlank (c : Char) : Bool := c = ' ' || c = '\t' || c = '\n' || c = '\r'

def skipBlank (cs : List Char) : List Char := cs.dropWhile isBlank

def codeUnit? (a b c d : Char) : Option Nat := do
  let a ← Text.hexValue? a
  let b ← Text.hexValue? b
  let c ← Text.hexValue? c
  let d ← Text.hexValue? d
  some (((a * 16 + b) * 16 + c) * 16 + d)

def unescape? (c : Char) : Option Char :=
  if c = '"' then some '"'
  else if c = '\\' then some '\\'
  else if c = '/' then some '/'
  else if c = 'b' then some '\x08'
  else if c = 'f' then some '\x0c'
  else if c = 'n' then some '\n'
  else if c = 'r' then some '\r'
  else if c = 't' then some '\t'
  else none

def readUnits? : List Char → Option (List TextUnit × List Char)
  | [] => none
  | '"' :: cs => some ([], cs)
  | '\\' :: 'u' :: a :: b :: c :: d :: cs => do
    let n ← codeUnit? a b c d
    let (units, rest) ← readUnits? cs
    some (.code n :: units, rest)
  | '\\' :: e :: cs => do
    let c ← unescape? e
    let (units, rest) ← readUnits? cs
    some (.char c :: units, rest)
  | c :: cs =>
    if c.toNat < 32 then none
    else do
      let (units, rest) ← readUnits? cs
      some (.char c :: units, rest)

def readDigits (cs : List Char) : List Char × List Char :=
  (cs.takeWhile Char.isDigit, cs.dropWhile Char.isDigit)

def readDigits? (cs : List Char) : Option (List Char × List Char) :=
  let (digits, rest) := readDigits cs
  if digits.isEmpty then none else some (digits, rest)

/-- Reads the digits before the point: a single zero, or digits that begin with another one. -/
def readWhole? (cs : List Char) : Option (List Char × List Char) :=
  (readDigits? cs).bind fun (digits, rest) =>
    if digits.head? = some '0' ∧ 1 < digits.length then none else some (digits, rest)

def readFraction? : List Char → Option (List Char × List Char)
  | '.' :: cs => readDigits? cs
  | cs => some ([], cs)

def readExponentBody? : List Char → Option (Exponent × List Char)
  | '-' :: cs => (readDigits? cs).map fun (digits, rest) => (⟨true, digits⟩, rest)
  | '+' :: cs => (readDigits? cs).map fun (digits, rest) => (⟨false, digits⟩, rest)
  | cs => (readDigits? cs).map fun (digits, rest) => (⟨false, digits⟩, rest)

def readExponent? : List Char → Option (Option Exponent × List Char)
  | 'e' :: cs => (readExponentBody? cs).map fun (e, rest) => (some e, rest)
  | 'E' :: cs => (readExponentBody? cs).map fun (e, rest) => (some e, rest)
  | cs => some (none, cs)

def readMagnitude? (negative : Bool) (cs : List Char) : Option (Numeral × List Char) := do
  let (whole, cs) ← readWhole? cs
  let (fraction, cs) ← readFraction? cs
  let (exponent, cs) ← readExponent? cs
  some (⟨negative, whole, fraction, exponent⟩, cs)

def readNumeral? : List Char → Option (Numeral × List Char)
  | '-' :: cs => readMagnitude? true cs
  | cs => readMagnitude? false cs

def readName? (cs : List Char) : Option (List TextUnit × List Char) :=
  match skipBlank cs with
  | '"' :: cs => do
    let (name, cs) ← readUnits? cs
    match skipBlank cs with
    | ':' :: cs => some (name, cs)
    | _ => none
  | _ => none

mutual

def readValue? : (fuel : Nat) → List Char → Option (Raw × List Char)
  | 0, _ => none
  | fuel + 1, cs =>
    match skipBlank cs with
    | 'n' :: 'u' :: 'l' :: 'l' :: cs => some (.null, cs)
    | 't' :: 'r' :: 'u' :: 'e' :: cs => some (.bool true, cs)
    | 'f' :: 'a' :: 'l' :: 's' :: 'e' :: cs => some (.bool false, cs)
    | '"' :: cs => (readUnits? cs).map fun (units, cs) => (.text units, cs)
    | '[' :: cs =>
      match skipBlank cs with
      | ']' :: cs => some (.array [], cs)
      | cs => (readItems? fuel cs).map fun (items, cs) => (.array items, cs)
    | '\x7b' :: cs =>
      match skipBlank cs with
      | '\x7d' :: cs => some (.object [], cs)
      | cs => (readMembers? fuel cs).map fun (members, cs) => (.object members, cs)
    | cs => (readNumeral? cs).map fun (n, cs) => (.number n, cs)

def readItems? : (fuel : Nat) → List Char → Option (List Raw × List Char)
  | 0, _ => none
  | fuel + 1, cs => do
    let (item, cs) ← readValue? fuel cs
    match skipBlank cs with
    | ',' :: cs => (readItems? fuel cs).map fun (items, cs) => (item :: items, cs)
    | ']' :: cs => some ([item], cs)
    | _ => none

def readMembers? : (fuel : Nat) → List Char → Option (List (List TextUnit × Raw) × List Char)
  | 0, _ => none
  | fuel + 1, cs => do
    let (name, cs) ← readName? cs
    let (value, cs) ← readValue? fuel cs
    match skipBlank cs with
    | ',' :: cs => (readMembers? fuel cs).map fun (members, cs) => ((name, value) :: members, cs)
    | '\x7d' :: cs => some ([(name, value)], cs)
    | _ => none

end

def readRaw? (s : String) : Option Raw :=
  let cs := s.toList
  match readValue? (2 * cs.length + 2) cs with
  | some (raw, rest) => if (skipBlank rest).isEmpty then some raw else none
  | none => none

def parse? (s : String) : Option Json := (readRaw? s).bind Raw.value?

end PaymentBooking.Json
