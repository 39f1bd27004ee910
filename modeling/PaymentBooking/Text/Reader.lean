/-! # Readers

A reader takes the front of a text and gives what it stands for, with the rest of the text.
-/

namespace PaymentBooking.Text

/-! ## Blanks -/

/-- Whether a character has the Unicode property `White_Space`. -/
def isBlank (c : Char) : Bool :=
  let n := c.toNat
  (9 ≤ n && n ≤ 13) || n == 0x20 || n == 0x85 || n == 0xA0 || n == 0x1680 ||
    (0x2000 ≤ n && n ≤ 0x200A) || n == 0x2028 || n == 0x2029 || n == 0x202F || n == 0x205F ||
    n == 0x3000

def isBlankText (s : String) : Bool := s.toList.all isBlank

def dropBlank (cs : List Char) : List Char := cs.dropWhile isBlank

/-! ## Parts of a text -/

abbrev Reader (α : Type) := List Char → Option (α × List Char)

def digits (least most : Nat) : Reader Nat := fun cs =>
  let ds := (cs.take most).takeWhile Char.isDigit
  if ds.length < least then none else some (Nat.ofDigitChars 10 ds 0, cs.drop ds.length)

def twoDigits (least most : Nat) : Reader Nat := fun cs =>
  (digits 2 2 cs).filter fun (n, _) => least ≤ n && n ≤ most

def exactly (c : Char) : Reader Unit
  | [] => none
  | d :: cs => if d = c then some ((), cs) else none

def oneOf (choices : List Char) : Reader Unit
  | [] => none
  | d :: cs => if choices.contains d then some ((), cs) else none

def word (w : List Char) : Reader Unit := fun cs =>
  if w.isPrefixOf cs then some ((), cs.drop w.length) else none

end PaymentBooking.Text
