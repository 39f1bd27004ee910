import PaymentBooking.Json.Basic
import PaymentBooking.Json.Numeral

/-! # JSON as it is written

The structure of a JSON text before its numerals and texts are given a meaning. A text can be well
formed and yet have no value: it may name a number beyond the finite ones, hold half of a
surrogate pair, or nest deeper than a value may. A reader that passes over a part of a text asks
only that this part be well formed.
-/

namespace PaymentBooking.Json

/-- One unit between the quotes of a text: a character, or a code unit given by an escape. -/
inductive TextUnit where
  | char (c : Char)
  | code (n : Nat)
deriving DecidableEq

/-- A JSON text by structure. -/
inductive Raw where
  | null
  | bool (b : Bool)
  | number (n : Numeral)
  | text (units : List TextUnit)
  | array (items : List Raw)
  | object (members : List (List TextUnit × Raw))
deriving Inhabited

namespace Raw

/-- Whether a code unit is the first half of a surrogate pair. -/
def isHighSurrogate (n : Nat) : Bool := 0xD800 ≤ n && n ≤ 0xDBFF

def isLowSurrogate (n : Nat) : Bool := 0xDC00 ≤ n && n ≤ 0xDFFF

def joinSurrogates (high low : Nat) : Char :=
  Char.ofNat (0x10000 + (high - 0xD800) * 0x400 + (low - 0xDC00))

/-- The characters that units stand for; `pending` is a first half that waits for its second. -/
def characters? (pending : Option Nat) : List TextUnit → Option (List Char)
  | [] => if pending.isNone then some [] else none
  | u :: units =>
    match pending, u with
    | none, .char c => (characters? none units).map (c :: ·)
    | none, .code n =>
      if isHighSurrogate n then characters? (some n) units
      else if isLowSurrogate n then none
      else (characters? none units).map (Char.ofNat n :: ·)
    | some high, .code n =>
      if isLowSurrogate n then (characters? none units).map (joinSurrogates high n :: ·) else none
    | some _, .char _ => none

def textOf? (units : List TextUnit) : Option String := (characters? none units).map String.ofList

mutual

def valueWithin? (depth : Nat) : Raw → Option Json
  | .null => some .null
  | .bool b => some (.bool b)
  | .number n => n.number?.map .number
  | .text units => (textOf? units).map .text
  | .array items =>
    match depth with
    | 0 => none
    | d + 1 => (itemsWithin? d items).map .array
  | .object members =>
    match depth with
    | 0 => none
    | d + 1 => (membersWithin? d members).map Json.ofMembers

def itemsWithin? (depth : Nat) : List Raw → Option (List Json)
  | [] => some []
  | item :: items => do
    let value ← valueWithin? depth item
    let values ← itemsWithin? depth items
    some (value :: values)

def membersWithin? (depth : Nat) : List (List TextUnit × Raw) → Option (List (String × Json))
  | [] => some []
  | (units, raw) :: members => do
    let name ← textOf? units
    let value ← valueWithin? depth raw
    let rest ← membersWithin? depth members
    some ((name, value) :: rest)

end

def maxDepth : Nat := 127

def value? (raw : Raw) : Option Json := valueWithin? maxDepth raw

end Raw

end PaymentBooking.Json
