import Mathlib.Data.ZMod.Basic
import PaymentBooking.Proofs.Iban.Form

/-! # Typing errors in an IBAN

The checksum finds a sign that was typed for another one of its kind, and two neighbours of a kind
that were typed in the wrong order. The number is taken modulo the prime 97, by which neither a
power of ten nor a difference of two signs can be divided. Only where the check digits meet the body
do two neighbours move to the two ends of the number; there the error counts as often as a power of
ten differs from 1, and of the powers that occur none leaves the remainder 1.
-/

namespace PaymentBooking.Iban

instance : Fact (Nat.Prime 97) := ⟨by norm_num⟩

/-- Two digits or two capital letters. -/
def SameKind (c d : Char) : Prop := c.isDigit ∧ d.isDigit ∨ c.isUpper ∧ d.isUpper

/-- What is typed for a text with one error: a sign for another one of its kind, or two different
neighbours of a kind in the wrong order. -/
inductive Mistyped : List Char → List Char → Prop
  | replaced (as bs : List Char) {c d : Char} (hkind : SameKind c d) (hne : c ≠ d) :
      Mistyped (as ++ c :: bs) (as ++ d :: bs)
  | swapped (as bs : List Char) {c d : Char} (hkind : SameKind c d) (hne : c ≠ d) :
      Mistyped (as ++ c :: d :: bs) (as ++ d :: c :: bs)

variable {c d : Char} {as bs : List Char}

theorem SameKind.isSign (h : SameKind c d) : IsSign c ∧ IsSign d :=
  h.elim (fun h => ⟨.inl h.1, .inl h.2⟩) fun h => ⟨.inr h.1, .inr h.2⟩

theorem SameKind.length_numeral (h : SameKind c d) :
    (numeral [c]).length = (numeral [d]).length := by
  rcases h with ⟨hc, hd⟩ | ⟨hc, hd⟩
  · rw [numeral_of_isDigit hc, numeral_of_isDigit hd]
    rfl
  · rw [numeral_of_isUpper hc, numeral_of_isUpper hd]
    rfl

/-! ## Remainders -/

theorem pow_ten_ne_zero (k : Nat) : (10 : ZMod 97) ^ k ≠ 0 := pow_ne_zero k (by decide)

/-- Ten is of order 96 modulo 97. -/
theorem pow_ten_ne_one {k : Nat} (hpos : 0 < k) (hlt : k < 96) : (10 : ZMod 97) ^ k ≠ 1 := by
  have hmod : ∀ k < 96, 0 < k → 10 ^ k % 97 ≠ 1 := by decide
  intro h
  have hcast : ((10 ^ k : Nat) : ZMod 97) = (1 : Nat) := by exact_mod_cast h
  exact hmod k hlt hpos ((ZMod.natCast_eq_natCast_iff' _ _ _).1 hcast)

theorem cast_value_sub_ne_zero (hc : IsSign c) (hd : IsSign d) (hne : c ≠ d) :
    (value c : ZMod 97) - value d ≠ 0 := by
  rw [sub_ne_zero]
  intro h
  have hmod := (ZMod.natCast_eq_natCast_iff' _ _ _).1 h
  rw [Nat.mod_eq_of_lt ((value_lt hc).trans (by decide)),
    Nat.mod_eq_of_lt ((value_lt hd).trans (by decide))] at hmod
  exact hne ((value_inj hc hd).1 hmod)

/-- The part of one sign in a number. -/
theorem cast_number_append_cons (hc : IsSign c) (as bs : List Char) :
    (number (as ++ c :: bs) : ZMod 97) =
      number as * 10 ^ ((numeral [c]).length + (numeral bs).length) +
        value c * 10 ^ (numeral bs).length + number bs := by
  rw [number_append, ← List.singleton_append, number_append, numeral_append, List.length_append,
    number_singleton hc]
  push_cast
  ring

/-- Another sign in the place of one changes the remainder. -/
theorem cast_number_replaced (hkind : SameKind c d) (hne : c ≠ d) (as bs : List Char) :
    (number (as ++ c :: bs) : ZMod 97) ≠ number (as ++ d :: bs) := by
  obtain ⟨hc, hd⟩ := hkind.isSign
  have hdiff : (number (as ++ c :: bs) : ZMod 97) - number (as ++ d :: bs) =
      (value c - value d) * 10 ^ (numeral bs).length := by
    rw [cast_number_append_cons hc, cast_number_append_cons hd, hkind.length_numeral]
    ring
  rw [← sub_ne_zero, hdiff]
  exact mul_ne_zero (cast_value_sub_ne_zero hc hd hne) (pow_ten_ne_zero _)

theorem length_numeral_singleton (h : IsSign c) :
    1 ≤ (numeral [c]).length ∧ (numeral [c]).length ≤ 2 := by
  rcases h with h | h
  · rw [numeral_of_isDigit h, List.length_singleton]
    decide
  · rw [numeral_of_isUpper h, List.length_cons, List.length_singleton]
    decide

theorem length_numeral_le (h : ∀ c ∈ as, IsSign c) : (numeral as).length ≤ 2 * as.length := by
  induction as with
  | nil => exact Nat.le_refl 0
  | cons c as ih =>
    obtain ⟨hc, has⟩ := List.forall_mem_cons.1 h
    have hsign := (length_numeral_singleton hc).2
    have hrest := ih has
    rw [numeral_cons, List.length_append, List.length_cons]
    omega

/-- Two signs that change places change the remainder, however many signs stand between them in an
IBAN: the difference counts a power of ten less one times. -/
theorem cast_number_exchanged (hkind : SameKind c d) (hne : c ≠ d) {cs : List Char}
    (hcs : ∀ c ∈ cs, IsSign c) (hlength : cs.length ≤ 32) (as bs : List Char) :
    (number (as ++ c :: (cs ++ d :: bs)) : ZMod 97) ≠ number (as ++ d :: (cs ++ c :: bs)) := by
  obtain ⟨hc, hd⟩ := hkind.isSign
  set shift := (numeral cs).length + (numeral [d]).length
  have hshift : (10 : ZMod 97) ^ shift ≠ 1 := by
    have hd := length_numeral_singleton hd
    have hcs := length_numeral_le hcs
    exact pow_ten_ne_one (by omega) (by omega)
  have hdiff : (number (as ++ c :: (cs ++ d :: bs)) : ZMod 97) -
        number (as ++ d :: (cs ++ c :: bs)) =
      (value c - value d) * (10 ^ shift - 1) * 10 ^ (numeral bs).length := by
    rw [cast_number_append_cons hc as, cast_number_append_cons hd cs,
      cast_number_append_cons hd as, cast_number_append_cons hc cs]
    simp only [numeral_append, numeral_cons d bs, numeral_cons c bs, List.length_append,
      hkind.length_numeral, shift]
    ring
  rw [← sub_ne_zero, hdiff]
  exact mul_ne_zero (mul_ne_zero (cast_value_sub_ne_zero hc hd hne) (sub_ne_zero.2 hshift))
    (pow_ten_ne_zero _)

/-! ## Rearranged texts -/

theorem rearranged_append (as bs : List Char) :
    rearranged (as ++ bs) =
      as.drop 4 ++ bs.drop (4 - as.length) ++ (as.take 4 ++ bs.take (4 - as.length)) := by
  rw [rearranged, List.drop_append, List.take_append]

theorem exists_rearranged_cons (as bs : List Char) :
    ∃ front back, ∀ c, rearranged (as ++ c :: bs) = front ++ c :: back := by
  rcases hrest : 4 - as.length with _ | k
  · refine ⟨as.drop 4, bs ++ as.take 4, fun c => ?_⟩
    rw [rearranged_append, hrest]
    simp
  · refine ⟨bs.drop k ++ as, bs.take k, fun c => ?_⟩
    rw [rearranged_append, hrest, List.drop_eq_nil_of_le (by omega),
      List.take_of_length_le (by omega)]
    simp

/-- Rearranging keeps neighbours together, or puts them at the two ends. -/
theorem exists_rearranged_cons_cons (as bs : List Char) :
    (∃ front back, ∀ c d, rearranged (as ++ c :: d :: bs) = front ++ c :: d :: back) ∨
      ∀ c d, rearranged (as ++ c :: d :: bs) = d :: (bs ++ as ++ [c]) := by
  rcases hrest : 4 - as.length with _ | _ | k
  · refine .inl ⟨as.drop 4, bs ++ as.take 4, fun c d => ?_⟩
    rw [rearranged_append, hrest]
    simp
  · refine .inr fun c d => ?_
    rw [rearranged_append, hrest, List.drop_eq_nil_of_le (by omega),
      List.take_of_length_le (by omega)]
    simp
  · refine .inl ⟨bs.drop k ++ as, bs.take k, fun c d => ?_⟩
    rw [rearranged_append, hrest, List.drop_eq_nil_of_le (by omega),
      List.take_of_length_le (by omega)]
    simp

variable {cs ds : List Char}

/-- A typing error changes the remainder of the number. -/
theorem Mistyped.cast_number_ne (h : Mistyped cs ds) (hsigns : ∀ c ∈ rearranged cs, IsSign c)
    (hlength : cs.length ≤ 34) :
    (number (rearranged cs) : ZMod 97) ≠ number (rearranged ds) := by
  cases h with
  | replaced as bs hkind hne =>
    obtain ⟨front, back, hrearranged⟩ := exists_rearranged_cons as bs
    rw [hrearranged, hrearranged]
    exact cast_number_replaced hkind hne front back
  | @swapped as bs c d hkind hne =>
    rcases exists_rearranged_cons_cons as bs with ⟨front, back, hrearranged⟩ | hrearranged
    · have hnone : ∀ c ∈ ([] : List Char), IsSign c := nofun
      rw [hrearranged, hrearranged]
      exact cast_number_exchanged hkind hne hnone (by decide) front back
    · rw [hrearranged] at hsigns
      rw [hrearranged, hrearranged]
      refine (cast_number_exchanged hkind hne (fun c hc => hsigns c ?_) ?_ [] []).symm
      · exact List.mem_cons_of_mem d (List.mem_append_left _ hc)
      · simp only [List.length_append, List.length_cons] at hlength ⊢
        omega

/-! ## Texts with an error -/

def kinds (c : Char) : Bool × Bool := (c.isDigit, c.isUpper)

theorem SameKind.kinds_eq (h : SameKind c d) : kinds c = kinds d := by
  rcases h with ⟨hc, hd⟩ | ⟨hc, hd⟩
  · rw [kinds, kinds, hc, hd, isUpper_eq_false_of_isDigit hc, isUpper_eq_false_of_isDigit hd]
  · rw [kinds, kinds, hc, hd, isDigit_eq_false_of_isUpper hc, isDigit_eq_false_of_isUpper hd]

theorem Mistyped.map_kinds (h : Mistyped cs ds) : cs.map kinds = ds.map kinds := by
  cases h with
  | replaced as bs hkind => simp [hkind.kinds_eq]
  | swapped as bs hkind => simp [hkind.kinds_eq]

/-- Whether a text has the right parts is seen by the kinds of its characters. -/
theorem Parts.Spells.of_map_kinds {p : Parts} {s t : String} (h : p.Spells s)
    (hkinds : s.toList.map kinds = t.toList.map kinds) : ∃ p : Parts, p.Spells t := by
  obtain ⟨hlength, hcountry, hcheck, hbody⟩ := exists_spells_iff.1 ⟨p, h⟩
  have hupper (cs : List Char) : cs.all Char.isUpper = (cs.map kinds).all Prod.snd := by
    rw [List.all_map]
    rfl
  have hdigit (cs : List Char) : cs.all Char.isDigit = (cs.map kinds).all Prod.fst := by
    rw [List.all_map]
    rfl
  have hsign (cs : List Char) :
      cs.all (fun c => c.isDigit || c.isUpper) = (cs.map kinds).all fun k => k.1 || k.2 := by
    rw [List.all_map]
    rfl
  have hsize : t.utf8ByteSize = s.utf8ByteSize := by
    have hs := h.isSign
    have ht : ∀ c ∈ t.toList, IsSign c := by
      simp only [IsSign, ← Bool.or_eq_true_iff, ← List.all_eq_true] at hs ⊢
      rwa [hsign, ← hkinds, ← hsign]
    rw [utf8ByteSize_of_isSign hs, utf8ByteSize_of_isSign ht, ← List.length_map kinds, ← hkinds,
      List.length_map]
  refine exists_spells_iff.2 ⟨hsize ▸ hlength, ?_, ?_, ?_⟩
  · rwa [hupper, List.map_take, ← hkinds, ← List.map_take, ← hupper]
  · rwa [hdigit, List.map_take, List.map_drop, ← hkinds, ← List.map_drop, ← List.map_take, ← hdigit]
  · rwa [hsign, List.map_drop, ← hkinds, ← List.map_drop, ← hsign]

/-- A typing error in an IBAN is found by the checksum. -/
theorem parse_of_mistyped {s t : String} {iban : Iban} (h : parse s = .ok iban)
    (hmistyped : Mistyped s.toList t.toList) : parse t = .error .checksumMismatch := by
  obtain ⟨p, hp⟩ := Parts.exists_spells h
  obtain ⟨q, hq⟩ := hp.of_map_kinds hmistyped.map_kinds
  have hlength : s.toList.length ≤ 34 := utf8ByteSize_of_isSign hp.isSign ▸ hp.length.2
  have hne := hmistyped.cast_number_ne (fun c hc => hp.isSign c (mem_rearranged.1 hc)) hlength
  rw [hp.rearranged_eq, hq.rearranged_eq] at hne
  have hnumber : p.number % 97 = 1 := (hp.parse_eq_ok_iff.1 h).2
  rw [hq.parse_eq, if_neg]
  exact fun hq => hne ((ZMod.natCast_eq_natCast_iff' _ _ _).2 (hnumber.trans hq.symm))

theorem parse_of_mistyped_ends :
    (parse "DE89370400440532013000" = .ok ⟨"DE89370400440532013000"⟩ ∧
      Mistyped "DE89370400440532013000".toList "DE83970400440532013000".toList) ∧
    parse "DE83970400440532013000" = .error .checksumMismatch := by
  have hparse : parse "DE89370400440532013000" = .ok ⟨"DE89370400440532013000"⟩ := by
    decide +kernel
  have hmistyped : Mistyped "DE89370400440532013000".toList "DE83970400440532013000".toList :=
    .swapped ['D', 'E', '8'] "70400440532013000".toList (.inl (by decide)) (by decide)
  exact ⟨⟨hparse, hmistyped⟩, parse_of_mistyped hparse hmistyped⟩

end PaymentBooking.Iban
