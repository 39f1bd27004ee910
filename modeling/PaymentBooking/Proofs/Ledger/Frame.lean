import PaymentBooking.Proofs.Ledger.Address
import PaymentBooking.Proofs.Ledger.Registry

/-! # What a batch may touch

A batch that is accepted leaves the books of other tenants alone. In the book of its tenant it opens
no account and closes none, keeps the records behind IBANs and moves only the balances of accounts
that its items name. Every item continues one of the two logs by one entry and the receipt by one
number; a row about the resource before it repeats that number.
-/

namespace PaymentBooking

namespace BatchItem

/-- The address of the item, with the resource before it put in, is that of a command to the
account. -/
def Names (account : Int64) (previous : Option Nat) (i : BatchItem) : Prop :=
  ∃ resolved action, i.resolve previous = .ok resolved ∧
    Address.read resolved.address = .ok (.transaction account action)

/-- A row of a table about the resource before it. -/
structure IsRow (i : BatchItem) (table : String) : Prop where
  dependent : i.dependent = true
  address : i.address = Address.ofDetail table
  nonempty : table ≠ ""
  slash : '/' ∉ table.toList
  query : '?' ∉ table.toList

end BatchItem

namespace Progress

/-! ## One item -/

theorem Advance.isSome_find?_balances {p q : Progress} {e : Entry} (h : p.Advance e q)
    (account : Int64) :
    (q.book.balances.find? account).isSome = (p.book.balances.find? account).isSome := by
  rcases h.find?_balances account with hsame | ⟨_, _, _, x, y, -, hopen, -, hy⟩
  · rw [hsame]
  · rw [hopen, hy]
    rfl

/-- An entry that moves something on an account comes from an item that names it. -/
theorem names_of_entryOf {p : Progress} {i : BatchItem} {account : Int64} {action : LedgerAction}
    {amount : Amount} {paymentType : Int64}
    (h : p.entryOf i = .ok (.transaction account action amount paymentType)) :
    i.Names account p.receipt.getLast? := by
  obtain ⟨resolved, hresolved, hentry⟩ := bind_eq_ok_iff.1 h
  rw [Entry.ofItem] at hentry
  split at hentry
  · cases hentry
  · obtain ⟨address, haddress, hentry⟩ := bind_eq_ok_iff.1 hentry
    refine ⟨resolved, action, hresolved, ?_⟩
    rw [mapError_eq_ok_iff.1 haddress]
    cases address with
    | detail table resource => cases hentry
    | transaction account' action' =>
      obtain ⟨_, -, hentry⟩ := bind_eq_ok_iff.1 hentry
      obtain ⟨_, -, hentry⟩ := bind_eq_ok_iff.1 hentry
      cases hentry
      rfl

theorem find?_balances_of_step {account : Int64} {p q : Progress} {i : BatchItem}
    (hnames : ¬i.Names account p.receipt.getLast?) (h : p.step i = .ok q) :
    q.book.balances.find? account = p.book.balances.find? account := by
  obtain ⟨e, he, hadv⟩ := step_eq_ok h
  rcases hadv.find?_balances account with hsame | ⟨_, _, _, _, _, rfl, -⟩
  · exact hsame
  · exact absurd (names_of_entryOf he) hnames

theorem receipt_of_step_row {p q : Progress} {i : BatchItem} {table : String} (hrow : i.IsRow table)
    (h : p.step i = .ok q) :
    ∃ n, p.receipt.getLast? = some n ∧ q.receipt = p.receipt ++ [n] := by
  obtain ⟨e, he, hadv⟩ := step_eq_ok h
  obtain ⟨resolved, hresolved, hentry⟩ := bind_eq_ok_iff.1 he
  cases hlast : p.receipt.getLast? with
  | none => simp [BatchItem.resolve, hrow.dependent, hlast] at hresolved
  | some n =>
    refine ⟨n, rfl, ?_⟩
    have hsubstitute : i.substitute n = resolved := by
      simpa [BatchItem.resolve, hrow.dependent, hlast] using hresolved
    have haddress : resolved.address = Text.replaceAll resourcePlaceholder (toString (n : Int))
        (Address.ofDetail table) := by
      rw [← hsubstitute, ← hrow.address]
      rfl
    rw [Entry.ofItem] at hentry
    split at hentry
    · cases hentry
    · obtain ⟨address, hread, hentry⟩ := bind_eq_ok_iff.1 hentry
      rw [mapError_eq_ok_iff,
        Address.read_filled_detail hrow.nonempty hrow.slash hrow.query haddress,
        Address.readDetail] at hread
      split at hread
      · rename_i resource hresource
        cases hread
        cases hentry
        cases hadv with
        | detail hmem hid =>
          have hnumber := hid.trans (Text.toInt_of_readInt64?_repr hresource)
          rw [Int.ofNat_inj.1 hnumber]
      · cases hread

/-! ## Runs -/

/-- What is worked off continues the logs and the receipt, and opens and closes no account. -/
structure Extends (p q : Progress) : Prop where
  accounts : ∀ account,
    (q.book.balances.find? account).isSome = (p.book.balances.find? account).isSome
  logs : ∃ ts ds ids, q.book.transactions = p.book.transactions ++ ts ∧
    q.book.details = p.book.details ++ ds ∧ q.receipt = p.receipt ++ ids ∧
      ts.length + ds.length = ids.length

theorem extends_refl (p : Progress) : p.Extends p := ⟨fun _ => rfl, [], [], [], by simp⟩

theorem Extends.trans {p q r : Progress} (hpq : p.Extends q) (hqr : q.Extends r) : p.Extends r := by
  obtain ⟨ts, ds, ids, hts, hds, hids, hlength⟩ := hpq.logs
  obtain ⟨ts', ds', ids', hts', hds', hids', hlength'⟩ := hqr.logs
  refine ⟨fun account => (hqr.accounts account).trans (hpq.accounts account),
    ts ++ ts', ds ++ ds', ids ++ ids', ?_, ?_, ?_, ?_⟩
  · rw [hts', hts, List.append_assoc]
  · rw [hds', hds, List.append_assoc]
  · rw [hids', hids, List.append_assoc]
  · simp only [List.length_append]
    omega

theorem extends_of_step {p q : Progress} {i : BatchItem} (h : p.step i = .ok q) : p.Extends q := by
  obtain ⟨e, -, hadv⟩ := step_eq_ok h
  refine ⟨hadv.isSome_find?_balances, ?_⟩
  cases hadv with
  | transaction hopen hbalance => exact ⟨[_], [], [_], rfl, by simp, rfl, rfl⟩
  | detail hmem hid => exact ⟨[], [_], [_], by simp, rfl, rfl, rfl⟩

theorem extends_of_run {index : Nat} {p q : Progress} {items : List BatchItem}
    (h : run index p items = .ok q) : p.Extends q :=
  run_induction (Q := fun _ _ => True) extends_refl (fun _ _ _ => Extends.trans)
    (fun _ _ _ _ => extends_of_step) (throughout_of_forall (fun _ _ => trivial) p items) h

/-- The receipt of the items in front, within that of all items. -/
theorem receipt_eq_take {index : Nat} {p q r : Progress} {before rest : List BatchItem}
    (hempty : p.receipt = []) (hbefore : run index p before = .ok q)
    (h : run index p (before ++ rest) = .ok r) : q.receipt = r.receipt.take before.length := by
  have hlength := length_receipt_of_run hbefore
  rw [hempty, List.length_nil, Nat.zero_add] at hlength
  rw [run_append_of_run hbefore] at h
  obtain ⟨-, -, ids, -, -, hids, -⟩ := (extends_of_run h).logs
  rw [hids, ← hlength, List.take_left]

end Progress

/-! ## Batches -/

/-- What the items of a batch, accepted with a receipt, may make of the book of their tenant. -/
structure Book.Effect (items : List BatchItem) (receipt : List Nat) (b b' : Book) : Prop where
  accounts : ∀ account,
    (b'.balances.find? account).isSome = (b.balances.find? account).isSome
  ibans : b'.ibans = b.ibans
  balances : ∀ account,
    (∀ (k : Nat) (i : BatchItem), items[k]? = some i →
      ¬i.Names account (receipt.take k).getLast?) →
      b'.balances.find? account = b.balances.find? account
  logs : ∃ ts ds, b'.transactions = b.transactions ++ ts ∧ b'.details = b.details ++ ds ∧
    ts.length + ds.length = items.length
  length : receipt.length = items.length
  rows : ∀ (k : Nat) (i : BatchItem) (table : String), items[k]? = some i → i.IsRow table →
    ∃ (j : Nat) (n : Nat), k = j + 1 ∧ receipt[j]? = some n ∧ receipt[k]? = some n

namespace Progress

variable {p r : Progress} {items : List BatchItem}

theorem exists_split {k : Nat} {i : BatchItem} (h : items[k]? = some i) :
    ∃ before rest, items = before ++ i :: rest ∧ before.length = k := by
  obtain ⟨hk, hi⟩ := List.getElem?_eq_some_iff.1 h
  refine ⟨items.take k, items.drop (k + 1), ?_, List.length_take_of_le hk.le⟩
  rw [← hi, ← List.drop_eq_getElem_cons hk, List.take_append_drop]

theorem find?_balances_of_run {account : Int64} (hempty : p.receipt = [])
    (hnames : ∀ (k : Nat) (i : BatchItem), items[k]? = some i →
      ¬i.Names account (r.receipt.take k).getLast?)
    (h : run 0 p items = .ok r) :
    r.book.balances.find? account = p.book.balances.find? account := by
  refine run_induction (Q := fun q i => ¬i.Names account q.receipt.getLast?)
    (R := fun p q => q.book.balances.find? account = p.book.balances.find? account)
    (fun _ => rfl) (fun _ _ _ hpq hqr => hqr.trans hpq) (fun _ _ _ => find?_balances_of_step)
    ?_ h
  refine throughout_of_split 0 fun before i rest q hitems hbefore => ?_
  subst hitems
  rw [receipt_eq_take hempty hbefore h]
  exact hnames before.length i (by simp)

theorem receipt_of_run_row {k : Nat} {i : BatchItem} {table : String} (hempty : p.receipt = [])
    (hi : items[k]? = some i) (hrow : i.IsRow table) (h : run 0 p items = .ok r) :
    ∃ j n, k = j + 1 ∧ r.receipt[j]? = some n ∧ r.receipt[k]? = some n := by
  obtain ⟨before, rest, rfl, rfl⟩ := exists_split hi
  obtain ⟨q, q', hbefore, hstep, hrest⟩ := run_split_eq_ok h
  obtain ⟨n, hlast, hreceipt⟩ := receipt_of_step_row hrow hstep
  have hlength := length_receipt_of_run hbefore
  rw [hempty, List.length_nil, Nat.zero_add] at hlength
  obtain ⟨front, hfront⟩ := List.getLast?_eq_some_iff.1 hlast
  obtain ⟨-, -, ids, -, -, hids, -⟩ := (extends_of_run hrest).logs
  rw [hreceipt, hfront] at hids
  rw [hfront, List.length_append, List.length_singleton] at hlength
  refine ⟨front.length, n, hlength.symm, ?_, ?_⟩
  · simp [hids]
  · simp [hids, ← hlength]

theorem effect_of_run (hempty : p.receipt = []) (h : run 0 p items = .ok r) :
    Book.Effect items r.receipt p.book r.book where
  accounts := (extends_of_run h).accounts
  ibans := ibans_of_run h
  balances _ hnames := find?_balances_of_run hempty hnames h
  logs := by
    obtain ⟨ts, ds, ids, hts, hds, hids, hlength⟩ := (extends_of_run h).logs
    have hreceipt := length_receipt_of_run h
    rw [hids, List.length_append] at hreceipt
    exact ⟨ts, ds, hts, hds, by omega⟩
  length := by simpa [hempty] using length_receipt_of_run h
  rows _ _ _ hi hrow := receipt_of_run_row hempty hi hrow h

end Progress

namespace Ledger

/-- A batch that is accepted touches no book but that of its tenant, and of this book only what its
items ask for. -/
theorem effect_of_submit {l l' : Ledger} {tenant : String} {items : List BatchItem}
    {receipt : List Nat} (h : l.submit tenant items = (l', .ok receipt)) :
    (∀ other, other ≠ tenant → l'.books.find? other = l.books.find? other) ∧
      ∃ b b', l.books.find? tenant = some b ∧ l'.books.find? tenant = some b' ∧
        Book.Effect items receipt b b' := by
  obtain ⟨b, p, hbook, hrun, rfl, rfl⟩ := submit_eq_ok h
  refine ⟨fun other hother => Dict.find?_insert_of_ne _ hother _, b, p.book, hbook,
    Dict.find?_insert_self .., ?_⟩
  exact Progress.effect_of_run rfl hrun

/-- A ledger of two tenants, the first of which has a transaction already. -/
def shared : Ledger :=
  after
    [.openAccount "u" 7 .zero, .openAccount "t" 1 .zero, .openAccount "t" 2 .zero,
      .openAccount "t" 7 .zero,
      .submit "t" [⟨"accounts/1/transactions?command=deposit",
        "\x7b\"transactionAmount\":\"9\",\"paymentTypeId\":3\x7d", false⟩]]

/-- A transaction with a row about it, a transaction on the account with the number of that
resource, and two rows about an older transaction, the second by a reference that names its table,
too. -/
def mixing : List BatchItem :=
  [⟨"accounts/7/transactions?command=deposit",
      "\x7b\"transactionAmount\":\"5\",\"paymentTypeId\":3\x7d", false⟩,
    ⟨"datatables/rows/$.resourceId", "[]", true⟩,
    ⟨"accounts/$.resourceId/transactions?command=deposit",
      "\x7b\"transactionAmount\":\"0.5\",\"paymentTypeId\":3\x7d", true⟩,
    ⟨"datatables/rows/1", "null", false⟩,
    ⟨"datatables/$.resourceId/$.resourceId", "true", true⟩]

theorem effect_of_submit_mixing :
    ∃ l', shared.submit "t" mixing = (l', .ok [2, 2, 3, 1, 1]) ∧
      (∀ other, other ≠ "t" → l'.books.find? other = shared.books.find? other) ∧
      ∃ b b', shared.books.find? "t" = some b ∧ l'.books.find? "t" = some b' ∧
        Book.Effect mixing [2, 2, 3, 1, 1] b b' := by
  have haccepted : (shared.submit "t" mixing).2.toOption.any fun receipt =>
      receipt = [2, 2, 3, 1, 1] := by
    decide +kernel
  obtain ⟨l', receipt, hsubmit, hreceipt⟩ := exists_of_snd_any haccepted
  obtain rfl : receipt = [2, 2, 3, 1, 1] := of_decide_eq_true hreceipt
  exact ⟨l', hsubmit, effect_of_submit hsubmit⟩

end Ledger

end PaymentBooking
