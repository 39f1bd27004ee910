import PaymentBooking.Proofs.Booking.Balances
import PaymentBooking.Proofs.Ledger.Resources

/-! # Books that differ in their numbers only

Numbers of resources go to all tenants out of one sequence, so what other tenants do shifts those of
one tenant. Postings that are settled on two books that differ in nothing else meet the same fate on
both and leave two such books: no number decides about an entry.
-/

namespace PaymentBooking

def Transaction.content (t : Transaction) : Int64 × LedgerAction × Decimal × Int64 :=
  (t.account, t.action, t.amount, t.paymentType)

/-- Details in two books that say the same about transactions at the same place. -/
structure Detail.Alike (b c : Book) (d e : Detail) : Prop where
  table : d.table = e.table
  left : d.resource ∈ b.resources
  right : e.resource ∈ c.resources
  position : b.resources.idxOf d.resource = c.resources.idxOf e.resource
  columns : d.columns = e.columns ∨
    ∃ members, d.columns = .filled d.resource members ∧ e.columns = .filled e.resource members

/-- Books that are the same but for the numbers of their transactions. -/
structure Book.Renumbered (b c : Book) : Prop where
  balances : b.balances = c.balances
  ibans : b.ibans = c.ibans
  transactions : b.transactions.map Transaction.content = c.transactions.map Transaction.content
  details : List.Forall₂ (Detail.Alike b c) b.details c.details

namespace Book

theorem Sound.renumbered_self {b : Book} {next : Nat} (h : b.Sound next) : b.Renumbered b where
  balances := rfl
  ibans := rfl
  transactions := rfl
  details := List.forall₂_same.2 fun d hd =>
    ⟨rfl, h.referenced d hd, h.referenced d hd, rfl, .inl rfl⟩

theorem Renumbered.length_resources {b c : Book} (h : b.Renumbered c) :
    b.resources.length = c.resources.length := by
  have hlength := congrArg List.length h.transactions
  simpa [resources] using hlength

end Book

/-! ## Postings -/

section Postings

variable {settings : LedgerSettings} {statement : Statement}

/-- A detail stays where it is when another transaction is entered. -/
theorem Detail.Alike.append {b c b' c' : Book} {d e : Detail} {t u : Transaction}
    (h : Detail.Alike b c d e) (hb : b'.transactions = b.transactions ++ [t])
    (hc : c'.transactions = c.transactions ++ [u]) : Detail.Alike b' c' d e := by
  have hleft : b'.resources = b.resources ++ [t.resource] := by simp [Book.resources, hb]
  have hright : c'.resources = c.resources ++ [u.resource] := by simp [Book.resources, hc]
  refine ⟨h.table, ?_, ?_, ?_, h.columns⟩
  · rw [hleft]
    exact List.mem_append_left _ h.left
  · rw [hright]
    exact List.mem_append_left _ h.right
  · rw [hleft, hright, List.idxOf_append_of_mem h.left, List.idxOf_append_of_mem h.right]
    exact h.position

namespace Progress

/-- Batches on books that differ in their numbers only, the first of them not behind in numbers. -/
structure Alike (p q : Progress) : Prop where
  books : p.book.Renumbered q.book
  next_le : q.next ≤ p.next
  left : p.book.Sound p.next
  right : q.book.Sound q.next

@[simp] theorem resources_posted (settings : LedgerSettings) (statement : Statement) (p : Progress)
    (x : Posting) (balances : Dict Int64 Decimal) :
    (p.posted settings statement x balances).book.resources = p.book.resources ++ [p.next] := by
  simp [posted, Book.resources, Posting.transaction]

theorem sound_of_settle {p p' : Progress} {x : Posting} (h : p.book.Sound p.next)
    (hsettle : p.settle settings statement x = .ok p') : p'.book.Sound p'.next := by
  obtain ⟨y, balance, -, -, rfl⟩ := settle_eq_ok hsettle
  have hposted := h.transaction (t := x.transaction p.next) rfl x.leg.amount.positive balance
  have hmem : p.next ∈ Book.resources
      { p.book with
        balances := p.book.balances.insert (x.transaction p.next).account balance
        transactions := p.book.transactions ++ [x.transaction p.next] } := by
    simp [Book.resources, Posting.transaction]
  exact hposted.detail (d := x.detail settings statement p.next) hmem

/-- The next number is that of the last transaction, on both books. -/
theorem Alike.posted {p q : Progress} (h : p.Alike q) (x : Posting)
    (balances : Dict Int64 Decimal) :
    (p.posted settings statement x balances).book.Renumbered
      (q.posted settings statement x balances).book where
  balances := rfl
  ibans := h.books.ibans
  transactions := by
    simp [Progress.posted, h.books.transactions, Transaction.content, Posting.transaction]
  details := by
    have hplace : ∀ {r : Progress}, r.book.Sound r.next →
        (r.posted settings statement x balances).book.resources.idxOf r.next =
          r.book.resources.length := by
      intro r hr
      have hnew : r.next ∉ r.book.resources := fun hmem => (hr.below _ hmem).false
      rw [resources_posted, List.idxOf_append_of_notMem hnew, List.idxOf_cons_self, Nat.add_zero]
    apply List.rel_append
    · exact h.books.details.imp fun d e hde => hde.append rfl rfl
    · refine .cons ⟨rfl, ?_, ?_, ?_, .inr ⟨statement.columns x, rfl, rfl⟩⟩ .nil
      · simp [Posting.detail]
      · simp [Posting.detail]
      · exact (hplace h.left).trans (h.books.length_resources.trans (hplace h.right).symm)

/-- A posting meets the same fate on both books. -/
theorem Alike.settle {p q : Progress} (h : p.Alike q) (x : Posting) :
    Agree Alike (p.settle settings statement x) (q.settle settings statement x) := by
  have hleft := settle_eq_move settings statement p x
  have hright := settle_eq_move settings statement q x
  rw [← h.books.balances] at hright
  cases hmove : x.leg.move p.book.balances with
  | error fault =>
    rw [hmove] at hleft hright
    rw [hleft, hright]
    exact .error fault
  | ok balances =>
    rw [hmove] at hleft hright
    rw [hleft, hright]
    exact .ok ⟨h.posted x balances, Nat.succ_le_succ h.next_le, sound_of_settle h.left hleft,
      sound_of_settle h.right hright⟩

theorem Alike.settleAll {p q : Progress} (h : p.Alike q) (settings : LedgerSettings)
    (statement : Statement) (index : Nat) (qs : List Posting) :
    Agree Alike (p.settleAll settings statement index qs)
      (q.settleAll settings statement index qs) := by
  induction qs generalizing index p q with
  | nil => exact .ok h
  | cons x qs ih =>
    apply ((h.settle x).mapError (failure index)).bind
    intro p' q' h'
    exact ih h' (index + 2)

end Progress

end Postings

end PaymentBooking
