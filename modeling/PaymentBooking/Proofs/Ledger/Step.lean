import PaymentBooking.Ledger.Basic
import PaymentBooking.Proofs.Outcome

/-! # What one item of a batch does

An item that is not refused posts either a transaction on an open account, as the next resource, or
a detail about a transaction of the book. `Advance` says all that changes then, and every law about
batches is an induction over it.

While a batch is worked off the ledger stays as it is: no item touches anything but the copy, and
what is left of a batch that fails is the ledger from before.
-/

namespace PaymentBooking

namespace Book

theorem newBalance_deposit_eq_ok_iff {account : Int64} {x a y : Decimal} :
    newBalance account .deposit x a = .ok y ↔ Decimal.add? x a = some y := elim_eq_ok_iff

theorem newBalance_withdrawal_eq_ok_iff {account : Int64} {x a y : Decimal} :
    newBalance account .withdrawal x a = .ok y ↔
      x.isLess a = false ∧ Decimal.sub? x a = some y := by
  simp only [newBalance]
  split
  · simp [*]
  · simp [*, elim_eq_ok_iff]

theorem postTransaction_eq_ok {b b' : Book} {t : Transaction} (h : b.postTransaction t = .ok b') :
    ∃ x y, b.balances.find? t.account = some x ∧
      newBalance t.account t.action x t.amount = .ok y ∧
      b' = { b with
        balances := b.balances.insert t.account y, transactions := b.transactions ++ [t] } := by
  simp only [postTransaction] at h
  split at h
  · simp at h
  · rename_i x hx
    obtain ⟨y, hy, h⟩ := bind_eq_ok_iff.1 h
    exact ⟨x, y, hx, hy, (Except.ok.inj h).symm⟩

theorem postDetail_eq_ok {b b' : Book} {table : String} {resource : Int64} {columns : Json}
    {id : Nat}
    (h : b.postDetail table resource columns = .ok (b', id)) :
    ∃ t ∈ b.transactions, (t.resource : Int) = resource.toInt ∧ id = t.resource ∧
      b' = { b with details := b.details ++ [⟨t.resource, table, columns⟩] } := by
  simp only [postDetail] at h
  split at h
  · simp at h
  · rename_i t ht
    obtain ⟨hb, hid⟩ := Prod.mk.inj (Except.ok.inj h)
    exact ⟨t, List.mem_of_find?_eq_some ht, by simpa using List.find?_some ht, hid.symm, hb.symm⟩

end Book

namespace Progress

/-- What an entry makes of a batch that is being worked off. -/
inductive Advance (p : Progress) : Entry → Progress → Prop where
  | transaction {account : Int64} {action : LedgerAction} {amount : Amount} {paymentType : Int64}
      {x y : Decimal} (hopen : p.book.balances.find? account = some x)
      (hbalance : Book.newBalance account action x amount.value = .ok y) :
      Advance p (.transaction account action amount paymentType)
        ⟨{ p.book with
            balances := p.book.balances.insert account y
            transactions :=
              p.book.transactions ++ [⟨p.next, account, action, amount.value, paymentType⟩] },
          p.next + 1, p.receipt ++ [p.next]⟩
  | detail {table : String} {resource : Int64} {columns : Json} {t : Transaction}
      (hmem : t ∈ p.book.transactions) (hid : (t.resource : Int) = resource.toInt) :
      Advance p (.detail table resource columns)
        ⟨{ p.book with details := p.book.details ++ [⟨t.resource, table, columns⟩] },
          if t.resource = p.next then p.next + 1 else p.next, p.receipt ++ [t.resource]⟩

/-- The balance of an account stays, unless the entry moves something on it. -/
theorem Advance.find?_balances {p q : Progress} {e : Entry} (h : p.Advance e q) (account : Int64) :
    q.book.balances.find? account = p.book.balances.find? account ∨
      ∃ action amount paymentType x y, e = .transaction account action amount paymentType ∧
        p.book.balances.find? account = some x ∧
        Book.newBalance account action x amount.value = .ok y ∧
        q.book.balances.find? account = some y := by
  cases h with
  | detail hmem hid => exact .inl rfl
  | transaction hopen hbalance =>
    rename_i other action amount paymentType x y
    by_cases ho : account = other
    · subst ho
      exact .inr ⟨action, amount, paymentType, x, y, rfl, hopen, hbalance,
        Dict.find?_insert_self ..⟩
    · exact .inl (Dict.find?_insert_of_ne _ ho _)

theorem advance_of_post {p p' : Progress} {e : Entry} (h : p.post e = .ok p') : p.Advance e p' := by
  obtain ⟨⟨b, id⟩, henter, h⟩ := bind_eq_ok_iff.1 h
  cases h
  cases e with
  | transaction account action amount paymentType =>
    obtain ⟨b', hb, h⟩ := bind_eq_ok_iff.1 henter
    cases h
    obtain ⟨x, y, hx, hy, rfl⟩ := Book.postTransaction_eq_ok hb
    rw [if_pos rfl]
    exact .transaction hx hy
  | detail table resource columns =>
    obtain ⟨t, hmem, hid, rfl, rfl⟩ := Book.postDetail_eq_ok henter
    exact .detail hmem hid

/-- An item that is not refused asks for an entry, and the batch advances by that entry. -/
theorem step_eq_ok {p p' : Progress} {i : BatchItem} (h : p.step i = .ok p') :
    ∃ e, p.entryOf i = .ok e ∧ p.Advance e p' := by
  obtain ⟨e, he, hpost⟩ := bind_eq_ok_iff.1 h
  exact ⟨e, mapError_eq_ok_iff.1 he, advance_of_post hpost⟩

/-- What items make of a copy by itself; `index` is that of the first. -/
def run (index : Nat) (p : Progress) : List BatchItem → Except Failure Progress
  | [] => .ok p
  | i :: items => do
    let p ← (p.step i).mapError (failure index)
    run (index + 1) p items

theorem run_cons_eq_ok {index : Nat} {p p' : Progress} {i : BatchItem} {items : List BatchItem}
    (h : run index p (i :: items) = .ok p') :
    ∃ q, p.step i = .ok q ∧ run (index + 1) q items = .ok p' := by
  obtain ⟨q, hq, hrun⟩ := bind_eq_ok_iff.1 h
  exact ⟨q, mapError_eq_ok_iff.1 hq, hrun⟩

theorem run_eq_error {index : Nat} {p : Progress} {items : List BatchItem}
    {failure : Failure} (h : run index p items = .error failure) :
    ∃ before i rest q fault, items = before ++ i :: rest ∧ run index p before = .ok q ∧
      q.step i = .error fault ∧ failure = Progress.failure (index + before.length) fault := by
  induction items generalizing index p with
  | nil => cases h
  | cons i items ih =>
    rcases bind_eq_error_iff.1 h with hstep | ⟨q, hstep, hrun⟩
    · obtain ⟨fault, hfault, hfailure⟩ := mapError_eq_error_iff.1 hstep
      exact ⟨[], i, items, p, fault, rfl, rfl, hfault, hfailure.symm⟩
    · obtain ⟨before, j, rest, r, fault, rfl, hbefore, hfault, hfailure⟩ := ih hrun
      refine ⟨i :: before, j, rest, r, fault, rfl, ?_, hfault, ?_⟩
      · exact bind_eq_ok_iff.2 ⟨q, hstep, hbefore⟩
      · rw [hfailure, List.length_cons, Nat.add_assoc, Nat.add_comm 1]

theorem length_receipt_of_run {index : Nat} {p r : Progress} {items : List BatchItem}
    (h : run index p items = .ok r) :
    r.receipt.length = p.receipt.length + items.length := by
  induction items generalizing index p with
  | nil =>
    cases h
    simp
  | cons i items ih =>
    obtain ⟨q, hq, hrun⟩ := run_cons_eq_ok h
    obtain ⟨e, -, hadv⟩ := step_eq_ok hq
    rw [ih hrun]
    cases hadv <;> simp <;> omega

/-- A condition on every item that a run works off, with what has become of the batch by then. -/
def Throughout (Q : Progress → BatchItem → Prop) (p : Progress) : List BatchItem → Prop
  | [] => True
  | i :: items => Q p i ∧ ∀ q, p.step i = .ok q → Throughout Q q items

instance decidableThroughout {Q : Progress → BatchItem → Prop} [∀ p i, Decidable (Q p i)] :
    (p : Progress) → (items : List BatchItem) → Decidable (p.Throughout Q items)
  | _, [] => .isTrue trivial
  | p, i :: items =>
    have : Decidable (∀ q, p.step i = .ok q → Throughout Q q items) :=
      match h : p.step i with
      | .ok q =>
        have := decidableThroughout (Q := Q) q items
        decidable_of_iff (Throughout Q q items)
          ⟨fun hq r hr => Except.ok.inj hr ▸ hq, fun hall => hall q rfl⟩
      | .error _ => .isTrue fun _ hr => by cases hr
    inferInstanceAs (Decidable (_ ∧ _))

/-- What every step keeps and what passes from step to step is kept by a run. -/
theorem run_induction {Q : Progress → BatchItem → Prop} {R : Progress → Progress → Prop}
    (hrefl : ∀ p, R p p) (htrans : ∀ p q r, R p q → R q r → R p r)
    (hstep : ∀ p i q, Q p i → p.step i = .ok q → R p q)
    {index : Nat} {p p' : Progress} {items : List BatchItem} (hQ : p.Throughout Q items)
    (h : run index p items = .ok p') : R p p' := by
  induction items generalizing index p with
  | nil =>
    cases h
    exact hrefl _
  | cons i items ih =>
    obtain ⟨q, hq, hrun⟩ := run_cons_eq_ok h
    exact htrans _ _ _ (hstep p i q hQ.1 hq) (ih (hQ.2 q hq) hrun)

theorem throughout_of_forall {Q : Progress → BatchItem → Prop} (hQ : ∀ p i, Q p i) (p : Progress)
    (items : List BatchItem) : p.Throughout Q items := by
  induction items generalizing p with
  | nil => trivial
  | cons i items ih => exact ⟨hQ p i, fun q _ => ih q⟩

/-- A condition that every item meets on what the items before it have left holds throughout. -/
theorem throughout_of_split {Q : Progress → BatchItem → Prop} (index : Nat) {p : Progress}
    {items : List BatchItem} (hQ : ∀ before i rest q, items = before ++ i :: rest →
      run index p before = .ok q → Q q i) : p.Throughout Q items := by
  induction items generalizing index p with
  | nil => trivial
  | cons i items ih =>
    refine ⟨hQ [] i items p rfl rfl, fun q hq => ih (index + 1) ?_⟩
    rintro before j rest r rfl hrun
    exact hQ (i :: before) j rest r rfl (bind_eq_ok_iff.2 ⟨q, mapError_eq_ok_iff.2 hq, hrun⟩)

theorem run_append_of_run {index : Nat} {p q : Progress} {before rest : List BatchItem}
    (h : run index p before = .ok q) :
    run index p (before ++ rest) = run (index + before.length) q rest := by
  induction before generalizing index p with
  | nil =>
    cases h
    rfl
  | cons i before ih =>
    obtain ⟨r, hr, hbefore⟩ := run_cons_eq_ok h
    rw [List.cons_append, run, hr, List.length_cons, ← Nat.add_assoc, Nat.add_right_comm]
    exact ih hbefore

/-- Every item of a run is worked off on what the items before it have left. -/
theorem run_split_eq_ok {index : Nat} {p r : Progress} {before rest : List BatchItem}
    {i : BatchItem} (h : run index p (before ++ i :: rest) = .ok r) :
    ∃ q q', run index p before = .ok q ∧ q.step i = .ok q' ∧
      run (index + before.length + 1) q' rest = .ok r := by
  induction before generalizing index p with
  | nil =>
    obtain ⟨q', hstep, hrest⟩ := run_cons_eq_ok h
    exact ⟨p, q', rfl, hstep, hrest⟩
  | cons j before ih =>
    obtain ⟨p', hj, hrun⟩ := run_cons_eq_ok h
    obtain ⟨q, q', hbefore, hstep, hrest⟩ := ih hrun
    refine ⟨q, q', bind_eq_ok_iff.2 ⟨p', mapError_eq_ok_iff.2 hj, hbefore⟩, hstep, ?_⟩
    rw [List.length_cons, Nat.add_comm before.length, ← Nat.add_assoc]
    exact hrest

end Progress

namespace Submission

/-! ## Work on the copy -/

variable {s : Submission} {index : Nat} {items : List BatchItem}

theorem item_ledger (s : Submission) (index : Nat) (i : BatchItem) :
    (s.item index i).1.ledger = s.ledger := by
  rw [item]
  cases s.copy.step i <;> rfl

/-- However far the items are worked off, the ledger has not changed. -/
theorem items_ledger (s : Submission) (index : Nat) (items : List BatchItem) :
    (s.items index items).1.ledger = s.ledger := by
  induction items generalizing s index with
  | nil => rfl
  | cons i items ih =>
    have hitem := s.item_ledger index i
    rw [Submission.items]
    rcases hstep : s.item index i with ⟨r, _ | failure⟩
    · rw [hstep] at hitem
      exact (ih r (index + 1)).trans hitem
    · rw [hstep] at hitem
      exact hitem

theorem items_of_run {p : Progress} (h : Progress.run index s.copy items = .ok p) :
    s.items index items = ({ s with copy := p }, none) := by
  induction items generalizing s index with
  | nil =>
    cases h
    rfl
  | cons i items ih =>
    obtain ⟨q, hq, hrun⟩ := Progress.run_cons_eq_ok h
    rw [Submission.items, item, hq]
    exact ih (s := { s with copy := q }) hrun

theorem items_of_run_eq_error {failure : Failure}
    (h : Progress.run index s.copy items = .error failure) :
    (s.items index items).2 = some failure := by
  induction items generalizing s index with
  | nil => cases h
  | cons i items ih =>
    rw [Submission.items, item]
    rcases bind_eq_error_iff.1 h with hstep | ⟨q, hstep, hrun⟩
    · obtain ⟨fault, hfault, rfl⟩ := mapError_eq_error_iff.1 hstep
      rw [hfault]
    · rw [mapError_eq_ok_iff.1 hstep]
      exact ih (s := { s with copy := q }) hrun

end Submission

namespace Ledger

variable {l l' : Ledger} {tenant : String} {items : List BatchItem}

theorem submit_of_unknown (hbook : l.books.find? tenant = none) :
    l.submit tenant items = (l, .error (.error (.ledger (.unknownTenant tenant)))) := by
  rw [submit, book, hbook]

theorem submit_of_run {b : Book} {p : Progress} (hbook : l.books.find? tenant = some b)
    (hrun : Progress.run 0 ⟨b, l.next, []⟩ items = .ok p) :
    l.submit tenant items = (⟨l.books.insert tenant p.book, p.next⟩, .ok p.receipt) := by
  rw [submit, book, hbook]
  simp only [Submission.items_of_run (s := Submission.begin l b) hrun]
  rfl

theorem submit_of_run_eq_error {b : Book} {failure : Failure}
    (hbook : l.books.find? tenant = some b)
    (hrun : Progress.run 0 ⟨b, l.next, []⟩ items = .error failure) :
    l.submit tenant items = (l, .error failure) := by
  have hfailure := Submission.items_of_run_eq_error (s := Submission.begin l b) hrun
  have hledger := (Submission.begin l b).items_ledger 0 items
  rcases hitems : (Submission.begin l b).items 0 items with ⟨s, failed⟩
  rw [hitems] at hfailure hledger
  cases hfailure
  rw [submit, book, hbook]
  simp only [hitems]
  exact congrArg (·, Except.error failure) hledger

/-- A batch is accepted with what it makes of the tenant's book, or fails and leaves the ledger as
it was. -/
theorem submit_cases (l : Ledger) (tenant : String) (items : List BatchItem) :
    (∃ b p, l.books.find? tenant = some b ∧ Progress.run 0 ⟨b, l.next, []⟩ items = .ok p ∧
      l.submit tenant items = (⟨l.books.insert tenant p.book, p.next⟩, .ok p.receipt)) ∨
    (∃ failure, l.submit tenant items = (l, .error failure) ∧
      ((l.books.find? tenant = none ∧ failure = .error (.ledger (.unknownTenant tenant))) ∨
        ∃ b, l.books.find? tenant = some b ∧
          Progress.run 0 ⟨b, l.next, []⟩ items = .error failure)) := by
  cases hbook : l.books.find? tenant with
  | none => exact .inr ⟨_, submit_of_unknown hbook, .inl ⟨rfl, rfl⟩⟩
  | some b =>
    cases hrun : Progress.run 0 ⟨b, l.next, []⟩ items with
    | ok p => exact .inl ⟨b, p, rfl, hrun, submit_of_run hbook hrun⟩
    | error failure =>
      exact .inr ⟨failure, submit_of_run_eq_error hbook hrun, .inr ⟨b, rfl, hrun⟩⟩

theorem submit_eq_ok {receipt : List Nat} (h : l.submit tenant items = (l', .ok receipt)) :
    ∃ b p, l.books.find? tenant = some b ∧ Progress.run 0 ⟨b, l.next, []⟩ items = .ok p ∧
      l' = ⟨l.books.insert tenant p.book, p.next⟩ ∧ receipt = p.receipt := by
  rcases submit_cases l tenant items with ⟨b, p, hbook, hrun, hsubmit⟩ | ⟨failure, hsubmit, -⟩
  · rw [hsubmit] at h
    cases h
    exact ⟨b, p, hbook, hrun, rfl, rfl⟩
  · rw [hsubmit] at h
    cases h

theorem length_receipt_of_submit {receipt : List Nat}
    (h : l.submit tenant items = (l', .ok receipt)) : receipt.length = items.length := by
  obtain ⟨b, p, -, hrun, -, rfl⟩ := submit_eq_ok h
  simpa using Progress.length_receipt_of_run hrun

/-- A batch fails because nobody keeps a book for the tenant, or on that book. The ledger is then
what it was. -/
theorem submit_eq_error_iff {failure : Failure} :
    l.submit tenant items = (l', .error failure) ↔ l' = l ∧
      ((l.books.find? tenant = none ∧ failure = .error (.ledger (.unknownTenant tenant))) ∨
        ∃ b, l.books.find? tenant = some b ∧
          Progress.run 0 ⟨b, l.next, []⟩ items = .error failure) := by
  constructor
  · intro h
    rcases submit_cases l tenant items with ⟨b, p, -, -, hsubmit⟩ | ⟨found, hsubmit, hcause⟩
    · rw [hsubmit] at h
      cases h
    · rw [hsubmit] at h
      cases h
      exact ⟨rfl, hcause⟩
  · rintro ⟨rfl, ⟨hbook, rfl⟩ | ⟨b, hbook, hrun⟩⟩
    · exact submit_of_unknown hbook
    · exact submit_of_run_eq_error hbook hrun

end Ledger

end PaymentBooking
