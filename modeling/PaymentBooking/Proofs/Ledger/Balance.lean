import Mathlib.Tactic
import PaymentBooking.Proofs.Decimal.Sum
import PaymentBooking.Proofs.Ledger.History

/-! # The books balance

As long as no sum has to be rounded, the balance of an account is the one that it was last opened
with, plus what has been deposited and minus what has been withdrawn since then. Both sides are kept
apart by the ledger, balances in one place and transactions in another; what ties them together is
that every item moves both by the same amount.
-/

namespace PaymentBooking

/-- The sum of the amounts that one command has moved on an account. -/
def Transaction.moved (action : LedgerAction) (account : Int64) (ts : List Transaction) : ℚ :=
  ((ts.filter fun t => t.account = account ∧ t.action = action).map fun t => t.amount.toRat).sum

namespace Transaction

@[simp] theorem moved_nil (action : LedgerAction) (account : Int64) : moved action account [] = 0 :=
  rfl

@[simp] theorem moved_append (action : LedgerAction) (account : Int64) (ts us : List Transaction) :
    moved action account (ts ++ us) = moved action account ts + moved action account us := by
  simp [moved]

theorem moved_singleton (action : LedgerAction) (account : Int64) (t : Transaction) :
    moved action account [t] =
      if t.account = account ∧ t.action = action then t.amount.toRat else 0 := by
  by_cases h : t.account = account ∧ t.action = action <;> simp [moved, h]

end Transaction

namespace Book

/-- The two decimals of which a transaction makes the new balance, if it comes to that: the account
is open and, for a withdrawal, covers the amount. -/
def summands? (b : Book) (account : Int64) (action : LedgerAction) (amount : Decimal) :
    Option (Decimal × Decimal) :=
  (b.balances.find? account).bind fun balance =>
    match action with
    | .deposit => some (balance, amount)
    | .withdrawal => if balance.isLess amount then none else some (balance, amount.negate)

theorem add?_of_newBalance {b : Book} {account : Int64} {action : LedgerAction} {x a y : Decimal}
    (hopen : b.balances.find? account = some x) (h : newBalance account action x a = .ok y) :
    ∃ s ∈ b.summands? account action a, s.1 = x ∧ Decimal.add? s.1 s.2 = some y ∧
      s.2.toRat = match action with
        | .deposit => a.toRat
        | .withdrawal => -a.toRat := by
  cases action with
  | deposit =>
    exact ⟨(x, a), by simp [summands?, hopen], rfl, newBalance_deposit_eq_ok_iff.1 h, rfl⟩
  | withdrawal =>
    obtain ⟨hless, hsub⟩ := newBalance_withdrawal_eq_ok_iff.1 h
    exact ⟨(x, a.negate), by simp [summands?, hopen, hless], rfl, hsub, Decimal.toRat_negate a⟩

/-- One book comes from another by transactions that account for the change of a balance. -/
def Balances (account : Int64) (b b' : Book) : Prop :=
  ∃ posted, b'.transactions = b.transactions ++ posted ∧
    ∀ x, b.balances.find? account = some x → ∃ y, b'.balances.find? account = some y ∧
      y.toRat = x.toRat + Transaction.moved .deposit account posted -
        Transaction.moved .withdrawal account posted

theorem Balances.of_same {account : Int64} {b b' : Book}
    (htransactions : b'.transactions = b.transactions)
    (hbalance : b'.balances.find? account = b.balances.find? account) : Balances account b b' :=
  ⟨[], by rw [htransactions, List.append_nil], fun x hx => ⟨x, by rw [hbalance, hx], by simp⟩⟩

theorem Balances.trans {account : Int64} {a b c : Book} (hab : Balances account a b)
    (hbc : Balances account b c) : Balances account a c := by
  obtain ⟨ts, hts, hx⟩ := hab
  obtain ⟨us, hus, hy⟩ := hbc
  refine ⟨ts ++ us, by rw [hus, hts, List.append_assoc], fun x h => ?_⟩
  obtain ⟨y, hfind, hval⟩ := hx x h
  obtain ⟨z, hfind', hval'⟩ := hy y hfind
  refine ⟨z, hfind', ?_⟩
  rw [hval', hval, Transaction.moved_append, Transaction.moved_append]
  ring

end Book

namespace Progress

/-- An item makes no sum, or one that is not rounded. -/
def AddsExactly (p : Progress) (i : BatchItem) : Prop :=
  ∀ account action amount paymentType,
    p.entryOf i = .ok (.transaction account action amount paymentType) →
      ∀ s ∈ p.book.summands? account action amount.value, Decimal.SumFits s.1 s.2

instance (p : Progress) (i : BatchItem) : Decidable (p.AddsExactly i) :=
  match h : p.entryOf i with
  | .ok (.transaction account action amount _) =>
    decidable_of_iff
      (∀ s ∈ p.book.summands? account action amount.value, Decimal.SumFits s.1 s.2)
      ⟨fun hs _ _ _ _ he => by cases h.symm.trans he; exact hs, fun hall => hall _ _ _ _ h⟩
  | .ok (.detail _ _ _) => .isTrue fun _ _ _ _ he => by cases h.symm.trans he
  | .error _ => .isTrue fun _ _ _ _ he => by cases h.symm.trans he

/-- What a transaction adds to the balance of its account is its amount, with the sign of the
command; other balances stay. -/
theorem balances_of_step {account : Int64} {p q : Progress} {i : BatchItem}
    (hexact : p.AddsExactly i)
    (h : p.step i = .ok q) : Book.Balances account p.book q.book := by
  obtain ⟨e, he, hadv⟩ := step_eq_ok h
  cases hadv with
  | detail hmem hid => exact .of_same rfl rfl
  | transaction hopen hbalance =>
    rename_i number action amount paymentType x y
    refine ⟨[⟨p.next, number, action, amount.value, paymentType⟩], rfl, fun z hz => ?_⟩
    by_cases hn : account = number
    · subst hn
      obtain rfl := Option.some.inj (hopen.symm.trans hz)
      obtain ⟨s, hs, hfst, hsum, hsnd⟩ := Book.add?_of_newBalance hopen hbalance
      refine ⟨y, Dict.find?_insert_self .., ?_⟩
      rw [Decimal.toRat_of_add? (hexact _ _ _ _ he s hs) hsum, hfst, hsnd,
        Transaction.moved_singleton, Transaction.moved_singleton]
      cases action with
      | deposit => simp
      | withdrawal => simp [sub_eq_add_neg]
    · refine ⟨z, by rw [Dict.find?_insert_of_ne _ hn, hz], ?_⟩
      rw [Transaction.moved_singleton, Transaction.moved_singleton, if_neg fun h => hn h.1.symm,
        if_neg fun h => hn h.1.symm]
      ring

end Progress

theorem Ledger.carried_balances (account : Int64) :
    Carried Progress.AddsExactly account (Book.Balances account) where
  refl _ := .of_same rfl rfl
  trans _ _ _ := .trans
  step _ _ _ := Progress.balances_of_step
  openOther _ _ _ hne := .of_same rfl (Dict.find?_insert_of_ne _ (Ne.symm hne) _)
  register _ _ := .of_same rfl rfl

/-- The balance of an account is the one that it was last opened with, plus all deposits and minus
all withdrawals since then, in every history in which the ledger rounds no sum. -/
theorem Ledger.balance_eq_opening_add_moved {history : List Command} {tenant : String}
    {account : Int64} {balance : Decimal}
    (hexact : Ledger.empty.Throughout Progress.AddsExactly history)
    (hbalance : (Ledger.after history).balance? tenant account = some balance) :
    ∃ before opening rest posted,
      history = before ++ .openAccount tenant account opening :: rest ∧
      (∀ c ∈ rest, ¬c.Opens tenant account) ∧
      ((Ledger.after history).bookOf tenant).transactions =
        ((Ledger.after (before ++ [.openAccount tenant account opening])).bookOf
          tenant).transactions ++
          posted ∧
      balance.toRat = opening.toRat + Transaction.moved .deposit account posted -
        Transaction.moved .withdrawal account posted := by
  obtain ⟨before, opening, rest, hsplit, hlast, hopened, posted, htransactions, hmoved⟩ :=
    (carried_balances account).since_lastOpening hexact hbalance
  obtain ⟨y, hy, hval⟩ := hmoved opening hopened
  refine ⟨before, opening, rest, posted, hsplit, hlast, htransactions, ?_⟩
  rw [← hval, Option.some.inj (hbalance.symm.trans hy)]

/-- An account that is opened twice: a deposit before the second opening does not count, nor does a
batch whose last item goes to an account that is not there. -/
def Ledger.reopening : List Command :=
  [.openAccount "t" 7 ((Decimal.read? "100.50").getD .zero),
    .submit "t" [⟨"accounts/7/transactions?command=deposit",
      "\x7b\"transactionAmount\":\"0.25\",\"paymentTypeId\":3\x7d", false⟩],
    .openAccount "t" 7 ((Decimal.read? "10").getD .zero),
    .submit "t" [⟨"accounts/7/transactions?command=deposit",
        "\x7b\"transactionAmount\":\"1\",\"paymentTypeId\":3\x7d", false⟩,
      ⟨"accounts/8/transactions?command=deposit",
        "\x7b\"transactionAmount\":\"1\",\"paymentTypeId\":3\x7d", false⟩],
    .submit "t" [⟨"accounts/7/transactions?command=deposit",
        "\x7b\"transactionAmount\":\"5.005\",\"paymentTypeId\":3\x7d", false⟩,
      ⟨"accounts/7/transactions?command=withdrawal",
        "\x7b\"transactionAmount\":\"1.0\",\"paymentTypeId\":4\x7d", false⟩]]

def Ledger.reopened : Decimal := (Decimal.read? "14.005").getD .zero

theorem Ledger.balance_reopening :
    Ledger.empty.Throughout Progress.AddsExactly reopening ∧
      (Ledger.after reopening).balance? "t" 7 = some reopened ∧
      ∃ before opening rest posted,
        reopening = before ++ .openAccount "t" 7 opening :: rest ∧
        (∀ c ∈ rest, ¬c.Opens "t" 7) ∧
        ((Ledger.after reopening).bookOf "t").transactions =
          ((Ledger.after (before ++ [.openAccount "t" 7 opening])).bookOf "t").transactions ++
            posted ∧
        reopened.toRat = opening.toRat + Transaction.moved .deposit 7 posted -
          Transaction.moved .withdrawal 7 posted := by
  have hexact : Ledger.empty.Throughout Progress.AddsExactly reopening := by decide +kernel
  have hbalance : (Ledger.after reopening).balance? "t" 7 = some reopened := by
    decide +kernel
  exact ⟨hexact, hbalance, balance_eq_opening_add_moved hexact hbalance⟩

end PaymentBooking
