import Mathlib.Tactic

/-! # Texts as bytes

A text is the bytes of its characters in UTF-8, one character after the other. A character below
U+0080 is one byte of the same number, and every byte of any other character is at least 128.
-/

namespace PaymentBooking.Text

theorem toList_toByteArray (s : String) :
    s.toByteArray.data.toList = s.toList.flatMap String.utf8EncodeChar := by
  rw [← String.utf8Encode_toList, List.utf8Encode, List.data_toByteArray]

theorem fromUTF8?_eq_some_iff {bs : List UInt8} {s : String} :
    String.fromUTF8? ⟨bs.toArray⟩ = some s ↔ s.toByteArray.data.toList = bs := by
  have hbytes : s.toByteArray.data.toList = bs ↔ s.toByteArray = ⟨bs.toArray⟩ := by
    rw [ByteArray.ext_iff, ← Array.toList_inj]
  rw [hbytes, String.fromUTF8?]
  by_cases hvalid : ByteArray.IsValidUTF8 ⟨bs.toArray⟩
  · rw [dif_pos hvalid, Option.some.injEq, ← String.toByteArray_inj, eq_comm]
    rfl
  · rw [dif_neg hvalid]
    refine iff_of_false nofun fun h => hvalid ?_
    rw [← h]
    exact s.isValidUTF8

/-- A character of one byte is that byte; any other has no byte below 128. -/
theorem utf8EncodeChar_cases (c : Char) :
    c.toNat < 128 ∧ String.utf8EncodeChar c = [UInt8.ofNat c.toNat] ∨
      128 ≤ c.toNat ∧ ∃ b rest, String.utf8EncodeChar c = b :: rest ∧
        ∀ b' ∈ b :: rest, 128 ≤ b'.toNat := by
  change c.val.toNat < 128 ∧ _ = [UInt8.ofNat c.val.toNat] ∨ 128 ≤ c.val.toNat ∧ _
  rw [String.utf8EncodeChar.eq_def]
  dsimp only
  split
  · exact .inl ⟨by omega, rfl⟩
  · refine .inr ⟨by omega, ?_⟩
    split_ifs <;> refine ⟨_, _, rfl, ?_⟩ <;>
      simp only [List.forall_mem_cons, List.not_mem_nil, IsEmpty.forall_iff, implies_true,
        and_true, UInt8.toNat_ofNat'] <;>
      omega

/-- No byte is below all characters, unless these are beyond ASCII. -/
theorem le_of_mem_flatMap_utf8EncodeChar {n : Nat} (hn : n ≤ 128) {cs : List Char}
    (h : ∀ c ∈ cs, n ≤ c.toNat) : ∀ b ∈ cs.flatMap String.utf8EncodeChar, n ≤ b.toNat := by
  intro b hb
  obtain ⟨c, hc, hb⟩ := List.mem_flatMap.1 hb
  rcases utf8EncodeChar_cases c with ⟨hsmall, hbytes⟩ | ⟨-, _, _, hbytes, hlarge⟩
  · rw [hbytes, List.mem_singleton] at hb
    rw [hb, UInt8.toNat_ofNat', Nat.mod_eq_of_lt (by omega)]
    exact h c hc
  · rw [hbytes] at hb
    exact hn.trans (hlarge b hb)

end PaymentBooking.Text
