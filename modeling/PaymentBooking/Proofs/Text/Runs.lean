import Mathlib.Data.List.SplitBy
import Mathlib.Tactic

/-! # Runs of a character

A run of a text is as long as its character is repeated: the same character stands neither right in
front of it nor right behind. A text that is not empty begins with a run, and its other runs are
those of the rest; so what holds of runs is shown run by run.
-/

namespace PaymentBooking.Text

open List (replicate)

/-- Whether a text has a run of a character of this length. -/
def IsRun (cs : List Char) (c : Char) (n : Nat) : Prop :=
  0 < n ∧ ∃ before after, cs = before ++ replicate n c ++ after ∧
    before.getLast? ≠ some c ∧ after.head? ≠ some c

variable {c d : Char} {cs rest : List Char} {m n : Nat}

theorem exists_first_run (cs : List Char) :
    cs = [] ∨ ∃ c n rest, rest.head? ≠ some c ∧ cs = replicate (n + 1) c ++ rest := by
  induction cs with
  | nil => exact .inl rfl
  | cons c cs ih =>
    rcases ih with rfl | ⟨d, n, rest, hrest, rfl⟩
    · exact .inr ⟨c, 0, [], nofun, rfl⟩
    · by_cases hcd : c = d
      · exact .inr ⟨d, n + 1, rest, hrest, by rw [hcd]; rfl⟩
      · exact .inr ⟨c, 0, replicate (n + 1) d ++ rest, fun h => hcd (Option.some.inj h).symm, rfl⟩

/-- Induction from the last run of a text to its first. -/
theorem run_induction {motive : List Char → Prop} (nil : motive [])
    (run : ∀ c n rest, rest.head? ≠ some c → motive rest → motive (replicate (n + 1) c ++ rest))
    (cs : List Char) : motive cs := by
  induction hlength : cs.length using Nat.strongRecOn generalizing cs with
  | ind k ih =>
    rcases exists_first_run cs with rfl | ⟨c, n, rest, hrest, rfl⟩
    · exact nil
    · refine run c n rest hrest (ih rest.length ?_ rest rfl)
      rw [← hlength, List.length_append, List.length_replicate]
      omega

theorem splitBy_replicate_append (h : rest.head? ≠ some c) :
    (replicate (n + 1) c ++ rest).splitBy (· == ·) =
      replicate (n + 1) c :: rest.splitBy (· == ·) := by
  have hchain : (replicate (n + 1) c).IsChain fun x y => (x == y) = true :=
    List.isChain_replicate_of_rel _ (beq_self_eq_true c)
  have hborder : ∀ x ∈ (replicate (n + 1) c).getLast?, ∀ y ∈ rest.head?, (x == y) = false := by
    intro x hx y hy
    obtain rfl := List.eq_of_mem_replicate (List.mem_of_mem_getLast? hx)
    exact beq_eq_false_iff_ne.2 fun heq => h (heq ▸ hy)
  have hne : replicate (n + 1) c ≠ [] := List.cons_ne_nil c _
  rw [List.splitBy_append hborder, List.splitBy_of_isChain hne hchain, List.singleton_append]

/-- How often a character is repeated in front of another one is seen by the text. -/
theorem replicate_append_inj {as bs : List Char} (has : as.head? ≠ some c)
    (hbs : bs.head? ≠ some c) (h : replicate m c ++ as = replicate n c ++ bs) : m = n := by
  induction m generalizing n with
  | zero =>
    cases n with
    | zero => rfl
    | succ n =>
      rw [replicate, List.nil_append] at h
      exact absurd (by rw [h]; rfl) has
  | succ m ih =>
    cases n with
    | zero =>
      rw [List.replicate_zero, List.nil_append] at h
      exact absurd (by rw [← h]; rfl) hbs
    | succ n => rw [ih (List.cons.inj h).2]

/-- The runs of a text are its first one and those of the rest. -/
theorem isRun_replicate_append (h : rest.head? ≠ some c) :
    IsRun (replicate (n + 1) c ++ rest) d m ↔ d = c ∧ m = n + 1 ∨ IsRun rest d m := by
  constructor
  · rintro ⟨hpos, before, after, heq, hbefore, hafter⟩
    obtain ⟨k, rfl⟩ := Nat.exists_eq_succ_of_ne_zero hpos.ne'
    rw [List.append_assoc] at heq
    rcases List.append_eq_append_iff.1 heq with ⟨between, rfl, hrest⟩ | ⟨left, hfirst, hbehind⟩
    · -- The run is behind the first one.
      refine .inr ⟨hpos, between, after, by rw [hrest, List.append_assoc], ?_, hafter⟩
      intro hlast
      exact hbefore (by rw [List.getLast?_append, hlast, Option.some_or])
    · obtain ⟨hlength, hbefore', hleft⟩ := List.replicate_eq_append_iff.1 hfirst
      cases hzero : left.length with
      | zero =>
        rw [hzero] at hleft
        rw [hleft] at hbehind
        exact .inr ⟨hpos, [], after, hbehind.symm, nofun, hafter⟩
      | succ j =>
        -- The run begins within the first one, and so it is the first one.
        rw [hzero] at hleft
        rw [hleft] at hbehind
        obtain rfl : d = c := (List.cons.inj hbehind).1
        have hnone : before.length = 0 := by
          by_contra hne
          rw [hbefore', List.getLast?_replicate, if_neg hne] at hbefore
          exact hbefore rfl
        have hm := replicate_append_inj hafter h hbehind
        exact .inl ⟨rfl, by omega⟩
  · rintro (⟨rfl, rfl⟩ | ⟨hpos, before, after, rfl, hbefore, hafter⟩)
    · exact ⟨Nat.succ_pos n, [], rest, by simp, nofun, h⟩
    · refine ⟨hpos, replicate (n + 1) c ++ before, after, by simp, ?_, hafter⟩
      rw [List.getLast?_append]
      cases hlast : before.getLast? with
      | some x => rwa [Option.some_or, ← hlast]
      | none =>
        obtain ⟨k, rfl⟩ := Nat.exists_eq_succ_of_ne_zero hpos.ne'
        obtain rfl := List.getLast?_eq_none_iff.1 hlast
        rw [Option.none_or, List.getLast?_replicate, if_neg (Nat.succ_ne_zero n)]
        exact fun hcd => h hcd.symm

theorem not_isRun_nil : ¬IsRun [] c n := by
  rintro ⟨hpos, before, after, h, -⟩
  have hlength := congrArg List.length h
  simp only [List.length_nil, List.length_append, List.length_replicate] at hlength
  omega

end PaymentBooking.Text
