import PaymentBooking.Rounding

/-! # Whole numbers in digits

Readers of whole numbers as they stand in addresses and arguments: one optional sign, then at
least one ASCII digit and nothing else. Leading zeros are allowed.
-/

namespace PaymentBooking.Text

def hexValue? (c : Char) : Option Nat :=
  if c.isDigit then some (c.toNat - '0'.toNat)
  else if 'a' ≤ c && c ≤ 'f' then some (c.toNat - 'a'.toNat + 10)
  else if 'A' ≤ c && c ≤ 'F' then some (c.toNat - 'A'.toNat + 10)
  else none

def readNat? (cs : List Char) : Option Nat :=
  if cs.isEmpty then none
  else if cs.all Char.isDigit then some (Nat.ofDigitChars 10 cs 0)
  else none

def readUnsigned? : List Char → Option Nat
  | '+' :: cs => readNat? cs
  | cs => readNat? cs

def readSigned? : List Char → Option Int
  | '-' :: cs => (readNat? cs).map fun n => -(n : Int)
  | cs => (readUnsigned? cs).map Int.ofNat

/-- Whether a number fits a signed word of 64 bits. -/
def fitsWord (n : Int) : Bool := -2 ^ (63 : Nat) ≤ n && n < 2 ^ (63 : Nat)

def readInt64? (s : String) : Option Int64 :=
  match readSigned? s.toList with
  | some n => if fitsWord n then some (Int64.ofInt n) else none
  | none => none

theorem readNat?_toDigits (n : Nat) : readNat? (Nat.toDigits 10 n) = some n := by
  have hne : Nat.toDigits 10 n ≠ [] := Nat.toDigits_ne_nil
  have hdig : (Nat.toDigits 10 n).all Char.isDigit := by
    rw [List.all_eq_true]
    exact fun c hc => Nat.isDigit_of_mem_toDigits (by decide) (by decide) hc
  simp [readNat?, hne, hdig, Nat.ofDigitChars_toDigits]

end PaymentBooking.Text
