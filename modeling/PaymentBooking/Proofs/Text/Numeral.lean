import Mathlib.Tactic
import PaymentBooking.Text.Numeral

/-! # Written numbers

A number is written as its digits, the first of which is no zero unless it is the only one, and
behind a sign if it is below zero. What is written is read back wherever it fits, and zeros that
fill up its places do not change it.
-/

namespace PaymentBooking.Text

theorem isDigit_of_mem_toDigits {n : Nat} {c : Char} (h : c ∈ Nat.toDigits 10 n) : c.isDigit :=
  Nat.isDigit_of_mem_toDigits (by decide) (by decide) h

theorem all_isDigit_toDigits (n : Nat) : (Nat.toDigits 10 n).all Char.isDigit :=
  List.all_eq_true.2 fun _ => isDigit_of_mem_toDigits

theorem toDigits_eq_cons (n : Nat) : ∃ c cs, Nat.toDigits 10 n = c :: cs ∧ c.isDigit := by
  obtain ⟨c, cs, h⟩ := List.exists_cons_of_ne_nil (Nat.toDigits_ne_nil (n := n) (b := 10))
  exact ⟨c, cs, h, isDigit_of_mem_toDigits (h ▸ List.mem_cons_self)⟩

theorem head?_toDigits_ne_zero {n : Nat} (hpos : 0 < n) :
    (Nat.toDigits 10 n).head? ≠ some '0' := by
  induction n using Nat.strongRecOn with
  | ind n ih =>
    by_cases hlt : n < 10
    · rw [Nat.toDigits_of_lt_base hlt]
      interval_cases n <;> decide
    · rw [Nat.toDigits_of_base_le (by decide) (Nat.le_of_not_lt hlt),
        List.head?_append_of_ne_nil _ Nat.toDigits_ne_nil]
      exact ih (n / 10) (by omega) (by omega)

theorem le_ofDigitChars (n : Nat) (ds : List Char) : n ≤ Nat.ofDigitChars 10 ds n := by
  rw [Nat.ofDigitChars_eq_ofDigitChars_zero]
  have hpos : 0 < 10 ^ ds.length := Nat.pos_of_ne_zero (by positivity)
  exact (Nat.le_mul_of_pos_left n hpos).trans (Nat.le_add_right _ _)

theorem ne_of_isDigit {c d : Char} (hc : c.isDigit) (hd : d.isDigit = false) : c ≠ d := by
  rintro rfl
  rw [hd] at hc
  cases hc

theorem toNat_of_isDigit {c : Char} (h : c.isDigit) : 48 ≤ c.toNat ∧ c.toNat ≤ 57 := by
  simpa [Char.isDigit, UInt32.le_iff_toNat_le] using h

/-! ## Zeros in front -/

theorem isDigit_of_mem_leftpad {places n : Nat} {c : Char}
    (h : c ∈ (Nat.toDigits 10 n).leftpad places '0') : c.isDigit := by
  rcases List.mem_append.1 h with h | h
  · rw [(List.mem_replicate.1 h).2]
    rfl
  · exact isDigit_of_mem_toDigits h

theorem ofDigitChars_leftpad (places n : Nat) :
    Nat.ofDigitChars 10 ((Nat.toDigits 10 n).leftpad places '0') 0 = n := by
  rw [List.leftpad, Nat.ofDigitChars_append, Nat.ofDigitChars_replicate_zero, Nat.mul_zero,
    Nat.ofDigitChars_ten_toDigits]

theorem length_leftpad_toDigits {places n : Nat} (hpos : 0 < places) (hlt : n < 10 ^ places) :
    ((Nat.toDigits 10 n).leftpad places '0').length = places := by
  have hle := (Nat.length_toDigits_le_iff (by decide : 1 < 10) hpos).2 hlt
  rw [List.length_leftpad]
  omega

/-! ## Whole numbers -/

theorem toList_toString (n : Int) :
    (toString n).toList =
      if n < 0 then '-' :: Nat.toDigits 10 n.natAbs else Nat.toDigits 10 n.natAbs := by
  rw [Int.toString_eq_repr, Int.repr_eq_if]
  by_cases h : n < 0
  · have hneg : ¬0 ≤ n := by omega
    have habs : (-n).toNat = n.natAbs := by omega
    simp [h, hneg, habs]
  · have hnonneg : 0 ≤ n := by omega
    have habs : n.toNat = n.natAbs := by omega
    simp [h, hnonneg, habs]

theorem toString_eq_cons (n : Int) :
    ∃ c cs, (toString n).toList = c :: cs ∧ (c = '-' ∨ c.isDigit) := by
  rw [toList_toString]
  split
  · exact ⟨'-', _, rfl, .inl rfl⟩
  · obtain ⟨c, cs, h, hc⟩ := toDigits_eq_cons n.natAbs
    exact ⟨c, cs, h, .inr hc⟩

/-- A written number shows no character but digits and a sign. -/
theorem not_mem_toString (n : Int) {c : Char} (hsign : c ≠ '-') (hdigit : c.isDigit = false) :
    c ∉ (toString n).toList := by
  have hdigits : c ∉ Nat.toDigits 10 n.natAbs := by
    intro h
    exact ne_of_isDigit (isDigit_of_mem_toDigits h) hdigit rfl
  rw [toList_toString]
  split
  · rw [List.mem_cons, not_or]
    exact ⟨hsign, hdigits⟩
  · exact hdigits

theorem readUnsigned?_toDigits (n : Nat) : readUnsigned? (Nat.toDigits 10 n) = some n := by
  rw [← readNat?_toDigits n]
  obtain ⟨c, cs, h, hc⟩ := toDigits_eq_cons n
  rw [h, readUnsigned?]
  intro ds heq
  rw [List.cons.injEq] at heq
  exact ne_of_isDigit hc (by decide) heq.1

theorem readSigned?_toString (n : Int) : readSigned? (toString n).toList = some n := by
  rw [toList_toString]
  split
  · rename_i hneg
    rw [readSigned?, readNat?_toDigits]
    change some (-(n.natAbs : Int)) = some n
    congr 1
    omega
  · rename_i hnonneg
    have hread := readUnsigned?_toDigits n.natAbs
    obtain ⟨c, cs, h, hc⟩ := toDigits_eq_cons n.natAbs
    rw [h] at hread ⊢
    rw [readSigned?, hread, Option.map_some]
    · congr 1
      exact Int.natAbs_of_nonneg (not_lt.1 hnonneg)
    · intro ds heq
      rw [List.cons.injEq] at heq
      exact ne_of_isDigit hc (by decide) heq.1

theorem readInt64?_toString_int {n : Int} (h : fitsWord n) :
    readInt64? (toString n) = some (Int64.ofInt n) := by
  rw [readInt64?, readSigned?_toString]
  exact if_pos h

theorem readInt64?_toString (n : Int64) : readInt64? (toString n) = some n := by
  have hfits : fitsWord n.toInt := by
    have hle := n.le_toInt
    have hlt := n.toInt_lt
    simp [fitsWord]
    omega
  exact (readInt64?_toString_int hfits).trans (congrArg some (Int64.ofInt_toInt n))

/-- What is read of the digits of a natural number is that number. -/
theorem toInt_of_readInt64?_repr {n : Nat} {i : Int64} (h : readInt64? (toString n) = some i) :
    i.toInt = n := by
  have hint : (toString n : String) = toString (n : Int) := rfl
  rw [hint, readInt64?, readSigned?_toString] at h
  simp only at h
  split at h
  · rename_i hfits
    obtain rfl := Option.some.inj h
    simp only [fitsWord, Bool.and_eq_true, decide_eq_true_eq] at hfits
    exact Int64.toInt_ofInt_of_le hfits.1 hfits.2
  · cases h

end PaymentBooking.Text
