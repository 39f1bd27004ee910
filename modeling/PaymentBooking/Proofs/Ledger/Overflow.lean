import PaymentBooking.Proofs.Decimal.Sum
import PaymentBooking.Proofs.Ledger.Step

/-! # Deposits beyond all decimals

A batch leaves the range of decimals by a deposit and by nothing else: one that would raise the
balance which it finds to half a unit below the range or further. What is withdrawn has a result
whenever it is covered, and a detail moves nothing.
-/

namespace PaymentBooking

namespace Book

theorem newBalance_deposit_eq_overflow_iff {account : Int64} {x : Decimal} {amount : Amount}
    {operation : Decimal.Operation} :
    newBalance account .deposit x amount.value = .error (.overflow operation) ↔
      operation = .addition ∧ 2 ^ 96 - 1 / 2 ≤ x.toRat + amount.value.toRat := by
  have hamount := (Decimal.isPositive_iff _).1 amount.positive
  have hlow := neg_le_of_abs_le x.abs_toRat_le
  -- Below zero the sum is in range with the balance.
  have habs : 2 ^ 96 - 1 / 2 ≤ |x.toRat + amount.value.toRat| ↔
      2 ^ 96 - 1 / 2 ≤ x.toRat + amount.value.toRat := by
    rw [le_abs]
    refine or_iff_left ?_
    linarith
  rw [newBalance, elim_eq_error_iff, Decimal.add?_eq_none_iff, habs, PostingFault.overflow.injEq,
    eq_comm (a := Decimal.Operation.addition), and_comm]

/-- A withdrawal that is covered has a result. -/
theorem newBalance_withdrawal_ne_overflow {account : Int64} {x : Decimal} (amount : Amount)
    (operation : Decimal.Operation) :
    newBalance account .withdrawal x amount.value ≠ .error (.overflow operation) := by
  have hamount : 0 ≤ amount.value.toRat := ((Decimal.isPositive_iff _).1 amount.positive).le
  intro h
  rw [newBalance] at h
  split at h
  · cases h
  · rename_i hless
    rw [Decimal.isLess_iff, not_lt] at hless
    obtain ⟨z, hz, -⟩ := Decimal.sub?_of_le hamount hless
    rw [hz] at h
    cases h

theorem postTransaction_eq_overflow_iff {b : Book} {t : Transaction}
    {operation : Decimal.Operation} :
    b.postTransaction t = .error (.overflow operation) ↔
      ∃ x, b.balances.find? t.account = some x ∧
        newBalance t.account t.action x t.amount = .error (.overflow operation) := by
  rw [postTransaction]
  cases b.balances.find? t.account with
  | none => simp
  | some x =>
    simp only [Option.some.injEq, exists_eq_left']
    constructor
    · intro h
      rcases bind_eq_error_iff.1 h with h | ⟨y, -, h⟩
      · exact h
      · cases h
    · exact fun h => bind_eq_error_iff.2 (.inl h)

theorem postDetail_ne_overflow (b : Book) (table : String) (resource : Int64) (columns : Json)
    (operation : Decimal.Operation) :
    b.postDetail table resource columns ≠ .error (.overflow operation) := by
  intro h
  rw [postDetail] at h
  split at h <;> cases h

end Book

namespace Progress

/-- The item deposits on an open account more than its balance has room for. -/
def Overflows (p : Progress) (i : BatchItem) : Prop :=
  ∃ account amount paymentType x,
    p.entryOf i = .ok (.transaction account .deposit amount paymentType) ∧
      p.book.balances.find? account = some x ∧ 2 ^ 96 - 1 / 2 ≤ x.toRat + amount.value.toRat

theorem enter_eq_overflow_iff {p : Progress} {e : Entry} {operation : Decimal.Operation} :
    p.enter e = .error (.overflow operation) ↔
      operation = .addition ∧ ∃ account amount paymentType x,
        e = .transaction account .deposit amount paymentType ∧
          p.book.balances.find? account = some x ∧
            2 ^ 96 - 1 / 2 ≤ x.toRat + amount.value.toRat := by
  cases e with
  | detail table resource columns =>
    rw [enter]
    simp [Book.postDetail_ne_overflow]
  | transaction account action amount paymentType =>
    have henter : p.enter (.transaction account action amount paymentType) =
          .error (.overflow operation) ↔
        p.book.postTransaction ⟨p.next, account, action, amount.value, paymentType⟩ =
          .error (.overflow operation) := by
      rw [enter, bind_eq_error_iff]
      simp
    rw [henter, Book.postTransaction_eq_overflow_iff]
    cases action with
    | withdrawal => simp [Book.newBalance_withdrawal_ne_overflow]
    | deposit =>
      simp only [Book.newBalance_deposit_eq_overflow_iff, Entry.transaction.injEq]
      constructor
      · rintro ⟨x, hopen, hoperation, hlarge⟩
        exact ⟨hoperation, account, amount, paymentType, x, ⟨rfl, trivial, rfl, rfl⟩, hopen, hlarge⟩
      · rintro ⟨hoperation, _, _, _, x, ⟨rfl, -, rfl, rfl⟩, hopen, hlarge⟩
        exact ⟨x, hopen, hoperation, hlarge⟩

/-- An item overflows exactly if it is such a deposit. -/
theorem step_eq_overflow_iff {p : Progress} {i : BatchItem} {operation : Decimal.Operation} :
    p.step i = .error (.overflow operation) ↔ operation = .addition ∧ p.Overflows i := by
  have hstep : p.step i = .error (.overflow operation) ↔
      ∃ e, p.entryOf i = .ok e ∧ p.enter e = .error (.overflow operation) := by
    simp [step, post, bind_eq_error_iff, mapError_eq_error_iff, mapError_eq_ok_iff]
  simp only [hstep, enter_eq_overflow_iff, Overflows]
  constructor
  · rintro ⟨_, hentry, hoperation, account, amount, paymentType, x, rfl, hroom⟩
    exact ⟨hoperation, account, amount, paymentType, x, hentry, hroom⟩
  · rintro ⟨hoperation, account, amount, paymentType, x, hentry, hroom⟩
    exact ⟨_, hentry, hoperation, account, amount, paymentType, x, rfl, hroom⟩

/-- A run overflows exactly if one of its items does, by what the items before it have left. -/
theorem run_eq_overflow_iff {index : Nat} {p : Progress} {items : List BatchItem}
    {operation : Decimal.Operation} :
    run index p items = .error (.overflow operation) ↔
      operation = .addition ∧ ∃ before i rest q, items = before ++ i :: rest ∧
        run index p before = .ok q ∧ q.Overflows i := by
  constructor
  · intro h
    obtain ⟨before, i, rest, q, fault, hitems, hbefore, hfault, hfailure⟩ := run_eq_error h
    cases fault with
    | refused refusal => cases hfailure
    | overflow found =>
      cases hfailure
      obtain ⟨hoperation, hoverflows⟩ := step_eq_overflow_iff.1 hfault
      exact ⟨hoperation, before, i, rest, q, hitems, hbefore, hoverflows⟩
  · rintro ⟨hoperation, before, i, rest, q, rfl, hbefore, hoverflows⟩
    have hfault := step_eq_overflow_iff.2 ⟨hoperation, hoverflows⟩
    rw [run_append_of_run hbefore, run, hfault]
    rfl

end Progress

namespace Ledger

/-- A batch of the tenant has an item that overflows, by what the items before it have left on a
copy of the book. -/
def Overflows (l : Ledger) (tenant : String) (items : List BatchItem) : Prop :=
  ∃ b before i rest p, l.books.find? tenant = some b ∧ items = before ++ i :: rest ∧
    Progress.run 0 ⟨b, l.next, []⟩ before = .ok p ∧ p.Overflows i

theorem submit_eq_overflow_iff {l l' : Ledger} {tenant : String} {items : List BatchItem}
    {operation : Decimal.Operation} :
    l.submit tenant items = (l', .error (.overflow operation)) ↔
      l' = l ∧ operation = .addition ∧ l.Overflows tenant items := by
  rw [submit_eq_error_iff]
  simp only [Progress.run_eq_overflow_iff, Overflows, reduceCtorEq, and_false, false_or]
  refine and_congr_right fun _ => ?_
  constructor
  · rintro ⟨b, hbook, hoperation, before, i, rest, p, hitem⟩
    exact ⟨hoperation, b, before, i, rest, p, hbook, hitem⟩
  · rintro ⟨hoperation, b, before, i, rest, p, hbook, hitem⟩
    exact ⟨b, hbook, hoperation, before, i, rest, p, hitem⟩

end Ledger

end PaymentBooking
