import Mathlib.Data.List.Forall2

/-! # Computations that may fail

A computation of several steps succeeds if each of its steps succeeds on what the step before gave,
and fails with the failure of the first step that does not.
-/

namespace PaymentBooking

variable {ε ε' α β : Type}

theorem bind_eq_ok_iff {x : Except ε α} {f : α → Except ε β} {b : β} :
    (x >>= f) = .ok b ↔ ∃ a, x = .ok a ∧ f a = .ok b := by
  cases x <;> simp [bind, Except.bind]

theorem exists_bind_eq_ok_iff {x : Except ε α} {f : α → Except ε β} :
    (∃ b, (x >>= f) = .ok b) ↔ ∃ a, x = .ok a ∧ ∃ b, f a = .ok b := by
  cases x <;> simp [bind, Except.bind]

theorem map_eq_ok_iff {x : Except ε α} {f : α → β} {b : β} :
    x.map f = .ok b ↔ ∃ a, x = .ok a ∧ f a = b := by
  cases x <;> simp [Except.map]

theorem bind_congr_of_ok {x : Except ε α} {f g : α → Except ε β}
    (h : ∀ a, x = .ok a → f a = g a) : (x >>= f) = (x >>= g) := by
  cases x with
  | error e => rfl
  | ok a => exact h a rfl

theorem mapError_eq_ok_iff {x : Except ε α} {f : ε → ε'} {a : α} :
    x.mapError f = .ok a ↔ x = .ok a := by
  cases x <;> simp [Except.mapError]

theorem bind_eq_error_iff {x : Except ε α} {f : α → Except ε β} {e : ε} :
    (x >>= f) = .error e ↔ x = .error e ∨ ∃ a, x = .ok a ∧ f a = .error e := by
  cases x <;> simp [bind, Except.bind]

theorem mapError_eq_error_iff {x : Except ε α} {f : ε → ε'} {e : ε'} :
    x.mapError f = .error e ↔ ∃ e', x = .error e' ∧ f e' = e := by
  cases x <;> simp [Except.mapError]

theorem toOption_eq_some_iff {x : Except ε α} {a : α} : x.toOption = some a ↔ x = .ok a := by
  cases x <;> simp [Except.toOption]

/-- What a result is found to be by evaluation. -/
theorem exists_of_any {x : Except ε α} {p : α → Bool} (h : x.toOption.any p) :
    ∃ a, x = .ok a ∧ p a := by
  obtain ⟨a, ha, hp⟩ := (Option.any_eq_true _ _).1 h
  exact ⟨a, toOption_eq_some_iff.1 ha, hp⟩

/-- A state and a result of which it has been found that there is a value with a property. -/
theorem exists_of_snd_any {σ : Type*} {x : σ × Except ε α} {p : α → Bool}
    (h : x.2.toOption.any p) : ∃ s a, x = (s, .ok a) ∧ p a := by
  obtain ⟨a, ha, hp⟩ := exists_of_any h
  exact ⟨x.1, a, Prod.ext rfl ha, hp⟩

theorem elim_eq_ok_iff {o : Option α} {e : ε} {a : α} :
    o.elim (Except.error e) Except.ok = .ok a ↔ o = some a := by
  cases o <;> simp

theorem elim_eq_error_iff {o : Option α} {e e' : ε} :
    o.elim (Except.error e) Except.ok = .error e' ↔ o = none ∧ e = e' := by
  cases o <;> simp

theorem mapM_eq_ok {f : α → Except ε β} {as : List α} {bs : List β} (h : as.mapM f = .ok bs) :
    List.Forall₂ (fun a b => f a = .ok b) as bs := by
  induction as generalizing bs with
  | nil =>
    rw [List.mapM_nil] at h
    cases h
    exact .nil
  | cons a as ih =>
    rw [List.mapM_cons] at h
    obtain ⟨b, hb, h⟩ := bind_eq_ok_iff.1 h
    obtain ⟨rest, hrest, h⟩ := bind_eq_ok_iff.1 h
    cases h
    exact .cons hb (ih hrest)

theorem exists_mapM_eq_ok_iff {f : α → Except ε β} {as : List α} :
    (∃ bs, as.mapM f = .ok bs) ↔ ∀ a ∈ as, ∃ b, f a = .ok b := by
  induction as with
  | nil => simp [pure, Except.pure]
  | cons a as ih =>
    rw [List.forall_mem_cons, ← ih, List.mapM_cons, exists_bind_eq_ok_iff]
    simp only [exists_bind_eq_ok_iff]
    constructor
    · rintro ⟨b, hb, bs, hbs, -⟩
      exact ⟨⟨b, hb⟩, bs, hbs⟩
    · rintro ⟨⟨b, hb⟩, bs, hbs⟩
      exact ⟨b, hb, bs, hbs, _, rfl⟩

/-- A step for every item of a list fails as it does for one of them. -/
theorem mapM_eq_error {f : α → Except ε β} {as : List α} {e : ε} (h : as.mapM f = .error e) :
    ∃ a ∈ as, f a = .error e := by
  induction as with
  | nil => cases h
  | cons a as ih =>
    rw [List.mapM_cons] at h
    rcases bind_eq_error_iff.1 h with hhead | ⟨b, -, h⟩
    · exact ⟨a, List.mem_cons_self, hhead⟩
    · rcases bind_eq_error_iff.1 h with hrest | ⟨bs, -, h⟩
      · obtain ⟨a', hmem, ha'⟩ := ih hrest
        exact ⟨a', List.mem_cons_of_mem a hmem, ha'⟩
      · cases h

/-- A computation whose failures, if it fails, are all of one sort. -/
def FailsOnly {α : Type} (P : ε → Prop) (x : Except ε α) : Prop := ∀ e, x = .error e → P e

namespace FailsOnly

variable {P Q : ε → Prop} {x : Except ε α}

theorem ok (a : α) : FailsOnly P (.ok a) := nofun

theorem mono (h : FailsOnly P x) (hPQ : ∀ e, P e → Q e) : FailsOnly Q x :=
  fun e he => hPQ e (h e he)

theorem bind {f : α → Except ε β} (h : FailsOnly P x)
    (hrest : ∀ a, x = .ok a → FailsOnly P (f a)) : FailsOnly P (x >>= f) := by
  intro e he
  rcases bind_eq_error_iff.1 he with hx | ⟨a, ha, hf⟩
  · exact h e hx
  · exact hrest a ha e hf

theorem map (h : FailsOnly P x) (f : α → β) : FailsOnly P (x.map f) := by
  cases x with
  | error e => exact fun e' he' => h e' (by cases he'; rfl)
  | ok a => exact ok (f a)

theorem mapM {f : α → Except ε β} {as : List α} (h : ∀ a ∈ as, FailsOnly P (f a)) :
    FailsOnly P (as.mapM f) := by
  intro e he
  obtain ⟨a, hmem, ha⟩ := mapM_eq_error he
  exact h a hmem e ha

end FailsOnly

/-- Computations that fail with the same failure, or both succeed with results in a relation. -/
inductive Agree {α β : Type} (R : α → β → Prop) : Except ε α → Except ε β → Prop
  | error (e : ε) : Agree R (.error e) (.error e)
  | ok {a : α} {b : β} (h : R a b) : Agree R (.ok a) (.ok b)

namespace Agree

variable {α' β' : Type} {R : α → β → Prop} {S : α' → β' → Prop} {x : Except ε α} {y : Except ε β}

theorem bind {f : α → Except ε α'} {g : β → Except ε β'} (h : Agree R x y)
    (hrest : ∀ a b, R a b → Agree S (f a) (g b)) : Agree S (x >>= f) (y >>= g) := by
  cases h with
  | error e => exact .error e
  | ok h => exact hrest _ _ h

theorem mapError (h : Agree R x y) (f : ε → ε') : Agree R (x.mapError f) (y.mapError f) := by
  cases h with
  | error e => exact .error (f e)
  | ok h => exact .ok h

theorem eq_ok {b : β} (h : Agree R x (.ok b)) : ∃ a, x = .ok a ∧ R a b := by
  cases h with
  | ok h => exact ⟨_, rfl, h⟩

theorem eq_error {e : ε} (h : Agree R x (.error e)) : x = .error e := by
  cases h with
  | error e => rfl

end Agree

end PaymentBooking
