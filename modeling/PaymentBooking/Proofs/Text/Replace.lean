import Mathlib.Tactic
import PaymentBooking.Text.Replace

/-! # Replacements between separators

An occurrence does not reach across a character that it does not have. A text made of parts with
such a character between them is replaced part by part.
-/

namespace PaymentBooking.Text

variable {old new : List Char}

theorem replaceFrom_length (cs : List Char) : replaceFrom old new cs.length cs = [] := by
  induction cs with
  | nil => rfl
  | cons c cs ih => exact ih

theorem replaceFrom_self (hne : old ≠ []) : replaceFrom old new 0 old = new := by
  obtain ⟨c, cs, rfl⟩ := List.exists_cons_of_ne_nil hne
  rw [replaceFrom]
  simp [replaceFrom_length]

/-- An occurrence ends before a character that it does not have. -/
theorem isPrefixOf_append_cons {x : Char} (hx : x ∉ old) (as bs : List Char) :
    old.isPrefixOf (as ++ x :: bs) = old.isPrefixOf as := by
  rw [Bool.eq_iff_iff, List.isPrefixOf_iff_prefix, List.isPrefixOf_iff_prefix]
  constructor
  · rintro ⟨t, ht⟩
    rcases List.append_eq_append_iff.1 ht with ⟨as', rfl, -⟩ | ⟨bs', rfl, hbs⟩
    · exact List.prefix_append old as'
    · cases bs' with
      | nil => rw [List.append_nil]
      | cons y bs' =>
        rw [List.cons_append, List.cons.injEq] at hbs
        exact absurd (List.mem_append_right as (hbs.1 ▸ List.mem_cons_self)) hx
  · exact fun h => h.trans (List.prefix_append as _)

private theorem replaceFrom_append_cons_of_le {x : Char} (hne : old ≠ []) (hx : x ∉ old)
    (as bs : List Char) (skip : Nat) (hskip : skip ≤ as.length) :
    replaceFrom old new skip (as ++ x :: bs) =
      replaceFrom old new skip as ++ x :: replaceFrom old new 0 bs := by
  induction as generalizing skip with
  | nil =>
    obtain rfl : skip = 0 := Nat.le_zero.1 hskip
    have hpre : old.isPrefixOf (x :: bs) = false := by
      rw [← List.nil_append (x :: bs), isPrefixOf_append_cons hx]
      cases old with
      | nil => exact absurd rfl hne
      | cons c cs => rfl
    simp [replaceFrom, hpre]
  | cons c as ih =>
    cases skip with
    | succ k => exact ih k (Nat.le_of_succ_le_succ hskip)
    | zero =>
      rw [List.cons_append, replaceFrom, replaceFrom, ← List.cons_append, isPrefixOf_append_cons hx]
      by_cases hpre : old.isPrefixOf (c :: as)
      · have hlen := (List.isPrefixOf_iff_prefix.1 hpre).length_le
        rw [List.length_cons] at hlen
        rw [if_pos hpre, if_pos hpre, ih _ (by omega), List.append_assoc]
      · rw [if_neg hpre, if_neg hpre, ih 0 (Nat.zero_le _), List.cons_append]

/-- What does not show the first character of a text is passed on as it is. -/
theorem replaceFrom_append_of_not_mem {o : Char} {os as : List Char} (h : o ∉ as)
    (bs : List Char) :
    replaceFrom (o :: os) new 0 (as ++ bs) = as ++ replaceFrom (o :: os) new 0 bs := by
  induction as with
  | nil => rfl
  | cons a as ih =>
    rw [List.mem_cons, not_or] at h
    have hpre : (o :: os).isPrefixOf (a :: (as ++ bs)) = false := by simp [List.isPrefixOf, h.1]
    rw [List.cons_append, replaceFrom, hpre, if_neg Bool.false_ne_true, ih h.2, List.cons_append]

/-- On both sides of a character that does not occur in it, a text is replaced on its own. -/
theorem replaceFrom_append_cons {x : Char} (hne : old ≠ []) (hx : x ∉ old) (as bs : List Char) :
    replaceFrom old new 0 (as ++ x :: bs) =
      replaceFrom old new 0 as ++ x :: replaceFrom old new 0 bs :=
  replaceFrom_append_cons_of_le hne hx as bs 0 (Nat.zero_le _)

/-- A replacement shows no character but those of the text and of what is put in. -/
theorem mem_of_mem_replaceFrom {cs : List Char} {skip : Nat} {c : Char}
    (h : c ∈ replaceFrom old new skip cs) : c ∈ new ∨ c ∈ cs := by
  induction cs generalizing skip with
  | nil => cases h
  | cons d cs ih =>
    cases skip with
    | succ k => exact (ih h).imp_right (List.mem_cons_of_mem d)
    | zero =>
      rw [replaceFrom] at h
      split at h
      · rcases List.mem_append.1 h with hnew | hrest
        · exact .inl hnew
        · exact (ih hrest).imp_right (List.mem_cons_of_mem d)
      · rcases List.mem_cons.1 h with rfl | hrest
        · exact .inr List.mem_cons_self
        · exact (ih hrest).imp_right (List.mem_cons_of_mem d)

theorem replaceFrom_ne_nil {cs : List Char} (hnew : new ≠ []) (h : cs ≠ []) :
    replaceFrom old new 0 cs ≠ [] := by
  obtain ⟨c, cs, rfl⟩ := List.exists_cons_of_ne_nil h
  rw [replaceFrom]
  split <;> simp [hnew]

/-! ## Replacements that change nothing -/

section Count

variable {x : Char}

private theorem count_replaceFrom_le (hx : x ∉ new) (skip : ℕ) (cs : List Char) :
    (replaceFrom old new skip cs).count x ≤ cs.count x := by
  induction cs generalizing skip with
  | nil => exact Nat.le_refl _
  | cons c cs ih =>
    cases skip with
    | succ k => exact (ih k).trans List.count_le_count_cons
    | zero =>
      rw [replaceFrom]
      by_cases hpre : old.isPrefixOf (c :: cs)
      · rw [if_pos hpre, List.count_append, List.count_eq_zero.2 hx, Nat.zero_add]
        exact (ih _).trans List.count_le_count_cons
      · rw [if_neg hpre, List.count_cons, List.count_cons]
        exact Nat.add_le_add_right (ih 0) _

/-- Every occurrence that is replaced takes its first character with it. -/
private theorem count_replaceFrom_lt {os : List Char} (hx : x ∉ new) {cs : List Char}
    (h : occursIn (x :: os) cs) : (replaceFrom (x :: os) new 0 cs).count x < cs.count x := by
  induction cs with
  | nil => cases h
  | cons c cs ih =>
    rw [replaceFrom]
    by_cases hpre : (x :: os).isPrefixOf (c :: cs)
    · have hc : x = c := by
        rw [List.isPrefixOf, Bool.and_eq_true, beq_iff_eq] at hpre
        exact hpre.1
      rw [if_pos hpre, List.count_append, List.count_eq_zero.2 hx, Nat.zero_add, ← hc,
        List.count_cons_self]
      exact Nat.lt_succ_of_le (count_replaceFrom_le hx _ cs)
    · rw [occursIn, Bool.or_eq_true, or_iff_right hpre] at h
      rw [if_neg hpre, List.count_cons, List.count_cons]
      exact Nat.add_lt_add_right (ih h) _

/-- If what is put in does not show the first character of a text, a replacement changes nothing
exactly where the text does not occur. -/
theorem replaceFrom_eq_self_iff {os cs : List Char} (hx : x ∉ new) :
    replaceFrom (x :: os) new 0 cs = cs ↔ occursIn (x :: os) cs = false := by
  constructor
  · intro heq
    by_contra hoccurs
    rw [Bool.not_eq_false] at hoccurs
    have hlt := count_replaceFrom_lt hx hoccurs
    rw [heq] at hlt
    exact Nat.lt_irrefl _ hlt
  · exact replaceFrom_of_not_occursIn

end Count

end PaymentBooking.Text
