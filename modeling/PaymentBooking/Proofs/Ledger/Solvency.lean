import PaymentBooking.Proofs.Ledger.History
import PaymentBooking.Proofs.Ledger.Overflow

/-! # No overdraft

A withdrawal has to be covered by the balance, and rounding to the nearest decimal never crosses a
decimal: what is left is not below zero, and a deposit never takes a balance further down. An
account is overdrawn at most by what it was opened with, and a withdrawal that is covered has a
result.
-/

namespace PaymentBooking

namespace Book

/-- The new balance is above zero or above the old one. -/
theorem min_zero_le_newBalance {account : Int64} {action : LedgerAction} {x y : Decimal}
    {amount : Amount} (h : newBalance account action x amount.value = .ok y) :
    min 0 x.toRat ≤ y.toRat := by
  have hamount : 0 ≤ amount.value.toRat := ((Decimal.isPositive_iff _).1 amount.positive).le
  cases action with
  | deposit => exact Decimal.min_zero_le_of_add? hamount (newBalance_deposit_eq_ok_iff.1 h)
  | withdrawal =>
    obtain ⟨hless, hsub⟩ := newBalance_withdrawal_eq_ok_iff.1 h
    have hcovered : amount.value.toRat ≤ x.toRat := by
      rw [← not_lt, ← Decimal.isLess_iff, hless]
      exact Bool.false_ne_true
    obtain ⟨z, hz, hnonneg⟩ := Decimal.sub?_of_le hamount hcovered
    obtain rfl := Option.some.inj (hz.symm.trans hsub)
    exact (min_le_left _ _).trans hnonneg

/-- The balance of an account in one book against that in another one. -/
def NotOverdrawn (account : Int64) (b b' : Book) : Prop :=
  ∀ x, b.balances.find? account = some x →
    ∃ y, b'.balances.find? account = some y ∧ min 0 x.toRat ≤ y.toRat

theorem NotOverdrawn.of_same {account : Int64} {b b' : Book}
    (h : b'.balances.find? account = b.balances.find? account) : NotOverdrawn account b b' :=
  fun x hx => ⟨x, h.trans hx, min_le_right _ _⟩

theorem NotOverdrawn.trans {account : Int64} {a b c : Book} (hab : NotOverdrawn account a b)
    (hbc : NotOverdrawn account b c) : NotOverdrawn account a c := by
  intro x hx
  obtain ⟨y, hy, hxy⟩ := hab x hx
  obtain ⟨z, hz, hyz⟩ := hbc y hy
  exact ⟨z, hz, (le_min (min_le_left _ _) hxy).trans hyz⟩

end Book

namespace Progress

theorem notOverdrawn_of_step {account : Int64} {p q : Progress} {i : BatchItem}
    (h : p.step i = .ok q) : Book.NotOverdrawn account p.book q.book := by
  obtain ⟨e, -, hadv⟩ := step_eq_ok h
  rcases hadv.find?_balances account with hsame | ⟨_, amount, _, x, y, -, hopen, hbalance, hy⟩
  · exact .of_same hsame
  · intro z hz
    obtain rfl := Option.some.inj (hopen.symm.trans hz)
    exact ⟨y, hy, Book.min_zero_le_newBalance hbalance⟩

end Progress

namespace Ledger

theorem carried_notOverdrawn (account : Int64) :
    Carried (fun _ _ => True) account (Book.NotOverdrawn account) where
  refl _ := .of_same rfl
  trans _ _ _ := .trans
  step _ _ _ _ := Progress.notOverdrawn_of_step
  openOther _ _ _ hne := .of_same (Dict.find?_insert_of_ne _ (Ne.symm hne) _)
  register _ _ := .of_same rfl

theorem submit_ne_overflow_subtraction (l : Ledger) (tenant : String) (items : List BatchItem) :
    (l.submit tenant items).2 ≠ .error (.overflow .subtraction) := by
  intro h
  cases (submit_eq_overflow_iff.1 (Prod.ext rfl h)).2.1

/-- After any history, an account is overdrawn at most by what it was last opened with, whatever
sums the ledger has rounded; and no batch fails for a withdrawal whose result is no decimal. -/
theorem balance_ge_min_opening (history : List Command) :
    (∀ tenant account balance, (after history).balance? tenant account = some balance →
      ∃ before opening rest, history = before ++ .openAccount tenant account opening :: rest ∧
        (∀ c ∈ rest, ¬c.Opens tenant account) ∧ min 0 opening.toRat ≤ balance.toRat) ∧
    ∀ tenant items,
      ((after history).submit tenant items).2 ≠ .error (.overflow .subtraction) := by
  refine ⟨fun tenant account balance hbalance => ?_, submit_ne_overflow_subtraction _⟩
  obtain ⟨before, opening, rest, hsplit, hlast, hopened, hbound⟩ :=
    (carried_notOverdrawn account).since_lastOpening (throughout_of_forall (fun _ _ => trivial) _ _)
      hbalance
  obtain ⟨y, hy, hle⟩ := hbound opening hopened
  refine ⟨before, opening, rest, hsplit, hlast, ?_⟩
  rwa [Option.some.inj (hbalance.symm.trans hy)]

end Ledger

end PaymentBooking
