import Mathlib.Tactic
import PaymentBooking.Iban

/-! # The number of an IBAN

Digits and capital letters write a number: a digit stands for itself, a letter for the two digits of
its number from 10 to 35. The remainder that is carried along the characters is the remainder of
that number, however long it is.
-/

namespace PaymentBooking.Iban

/-- Digits and capital letters, of which IBANs are made. -/
def IsSign (c : Char) : Prop := c.isDigit ∨ c.isUpper

instance (c : Char) : Decidable (IsSign c) := inferInstanceAs (Decidable (_ ∨ _))

/-- The number of a sign: 0 to 9 for a digit, 10 to 35 for a letter. -/
def value (c : Char) : Nat :=
  if c.isDigit then c.toNat - '0'.toNat else c.toNat - 'A'.toNat + 10

def numeral (cs : List Char) : List Char :=
  cs.flatMap fun c => if c.isDigit then [c] else Nat.toDigits 10 (value c)

def number (cs : List Char) : Nat := Nat.ofDigitChars 10 (numeral cs) 0

variable {c d : Char} {as bs cs : List Char}

/-! ## Single signs -/

theorem isDigit_iff : c.isDigit ↔ 48 ≤ c.toNat ∧ c.toNat ≤ 57 := by
  simp [Char.isDigit, UInt32.le_iff_toNat_le]

theorem isUpper_iff : c.isUpper ↔ 65 ≤ c.toNat ∧ c.toNat ≤ 90 := by
  change decide (65 ≤ c.val ∧ c.val ≤ 90) ↔ _
  rw [decide_eq_true_iff, UInt32.le_iff_toNat_le, UInt32.le_iff_toNat_le]
  rfl

theorem isDigit_eq_false_of_isUpper (h : c.isUpper) : c.isDigit = false := by
  have hletter := isUpper_iff.1 h
  by_contra hne
  have hdigit := isDigit_iff.1 (Bool.of_not_eq_false hne)
  omega

theorem isUpper_eq_false_of_isDigit (h : c.isDigit) : c.isUpper = false := by
  by_contra hne
  rw [isDigit_eq_false_of_isUpper (Bool.of_not_eq_false hne)] at h
  cases h

theorem value_of_isDigit (h : c.isDigit) : value c = c.toNat - 48 := if_pos h

theorem value_of_isUpper (h : c.isUpper) : value c = c.toNat - 55 := by
  have hrange := isUpper_iff.1 h
  rw [value, isDigit_eq_false_of_isUpper h, if_neg Bool.false_ne_true]
  change c.toNat - 65 + 10 = c.toNat - 55
  omega

theorem value_lt_ten (h : c.isDigit) : value c < 10 := by
  have hrange := isDigit_iff.1 h
  rw [value_of_isDigit h]
  omega

theorem value_of_letter_bounds (h : c.isUpper) : 10 ≤ value c ∧ value c < 36 := by
  have hrange := isUpper_iff.1 h
  rw [value_of_isUpper h]
  omega

theorem value_lt (h : IsSign c) : value c < 36 := by
  rcases h with h | h
  · exact (value_lt_ten h).trans (by decide)
  · exact (value_of_letter_bounds h).2

theorem value_inj (hc : IsSign c) (hd : IsSign d) : value c = value d ↔ c = d := by
  refine ⟨fun h => ?_, congrArg value⟩
  have hnat : c.toNat = d.toNat := by
    rcases hc with hc | hc <;> rcases hd with hd | hd
    · have hcrange := isDigit_iff.1 hc
      have hdrange := isDigit_iff.1 hd
      rw [value_of_isDigit hc, value_of_isDigit hd] at h
      omega
    · have hcvalue := value_lt_ten hc
      have hdvalue := value_of_letter_bounds hd
      omega
    · have hcvalue := value_of_letter_bounds hc
      have hdvalue := value_lt_ten hd
      omega
    · have hcrange := isUpper_iff.1 hc
      have hdrange := isUpper_iff.1 hd
      rw [value_of_isUpper hc, value_of_isUpper hd] at h
      omega
  exact Char.ext (UInt32.toNat_inj.1 hnat)

/-! ## Numbers of several signs -/

theorem numeral_append (as bs : List Char) : numeral (as ++ bs) = numeral as ++ numeral bs :=
  List.flatMap_append

theorem numeral_cons (c : Char) (cs : List Char) : numeral (c :: cs) = numeral [c] ++ numeral cs :=
  numeral_append [c] cs

theorem numeral_of_isDigit (h : c.isDigit) : numeral [c] = [c] := by simp [numeral, h]

theorem numeral_of_isUpper (h : c.isUpper) :
    numeral [c] = [Nat.digitChar (value c / 10), Nat.digitChar (value c % 10)] := by
  obtain ⟨hlow, hhigh⟩ := value_of_letter_bounds h
  have htens : value c / 10 < 10 := by omega
  rw [numeral, List.flatMap_singleton, isDigit_eq_false_of_isUpper h, if_neg Bool.false_ne_true,
    Nat.toDigits_of_base_le (by decide) hlow, Nat.toDigits_of_lt_base htens]
  rfl

theorem number_append (as bs : List Char) :
    number (as ++ bs) = number as * 10 ^ (numeral bs).length + number bs := by
  rw [number, numeral_append, Nat.ofDigitChars_append, Nat.ofDigitChars_eq_ofDigitChars_zero,
    Nat.mul_comm]
  rfl

theorem number_singleton (h : IsSign c) : number [c] = value c := by
  rcases h with h | h
  · rw [number, numeral_of_isDigit h, Nat.ofDigitChars_cons, Nat.ofDigitChars_nil,
      value_of_isDigit h, Nat.mul_zero, Nat.zero_add]
    rfl
  · rw [number, numeral, List.flatMap_singleton, isDigit_eq_false_of_isUpper h,
      if_neg Bool.false_ne_true, Nat.ofDigitChars_toDigits (by decide) (by decide)]

/-- One sign more appends its digits to the number whose remainder is carried. -/
theorem appendRemainder_eq (h : IsSign c) (r : Nat) :
    appendRemainder r c = (r * 10 ^ (numeral [c]).length + value c) % 97 := by
  rcases h with h | h
  · rw [appendRemainder, if_pos h, numeral_of_isDigit h, value, if_pos h]
    rfl
  · have hdigit := isDigit_eq_false_of_isUpper h
    rw [appendRemainder, hdigit, if_neg Bool.false_ne_true, numeral_of_isUpper h, value, hdigit,
      if_neg Bool.false_ne_true]
    rfl

private theorem foldl_appendRemainder (h : ∀ c ∈ cs, IsSign c) (as : List Char) :
    cs.foldl appendRemainder (number as % 97) = number (as ++ cs) % 97 := by
  induction cs generalizing as with
  | nil => rw [List.append_nil, List.foldl_nil]
  | cons c cs ih =>
    obtain ⟨hc, hcs⟩ := List.forall_mem_cons.1 h
    have hstep : appendRemainder (number as % 97) c = number (as ++ [c]) % 97 := by
      rw [appendRemainder_eq hc, number_append, number_singleton hc, Nat.add_mod, Nat.mod_mul_mod,
        ← Nat.add_mod]
    rw [List.foldl_cons, hstep, ih hcs, List.append_assoc, List.singleton_append]

/-- The remainder that is carried along is that of the whole number. -/
theorem remainder_eq_number_mod (h : ∀ c ∈ cs, IsSign c) : remainder cs = number cs % 97 :=
  foldl_appendRemainder h []

end PaymentBooking.Iban
