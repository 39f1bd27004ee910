import Mathlib.Tactic
import PaymentBooking.Proofs.Dict
import PaymentBooking.Proofs.Ledger.History

/-! # Numbers of resources

All tenants share one sequence of numbers. Whatever batches are submitted, the transactions of all
books together have exactly the numbers that have been given out, and no book refers to a resource
that it does not have. A detail is about a transaction that is there already, so its number is below
the next one and no number is passed over.
-/

namespace PaymentBooking

private theorem range'_append_of_le {a b c : Nat} (hab : a ≤ b) (hbc : b ≤ c) :
    List.range' a (b - a) ++ List.range' b (c - b) = List.range' a (c - a) := by
  have hb : a + (b - a) = b := Nat.add_sub_of_le hab
  have hc : b - a + (c - b) = c - a := by omega
  have happend := List.range'_append_1 (s := a) (m := b - a) (n := c - b)
  rwa [hb, hc] at happend

namespace Book

def resources (b : Book) : List Nat := b.transactions.map Transaction.resource

/-- A book whose numbers increase and lie below the next one, whose details are about transactions
of its own, and whose transactions move something on its own accounts. -/
structure Sound (b : Book) (next : Nat) : Prop where
  increasing : b.resources.Pairwise (· < ·)
  below : ∀ n ∈ b.resources, n < next
  referenced : ∀ d ∈ b.details, d.resource ∈ b.resources
  positive : ∀ t ∈ b.transactions, t.amount.isPositive
  isOpen : ∀ t ∈ b.transactions, b.balances.contains t.account

theorem sound_empty (next : Nat) : empty.Sound next := by
  constructor <;> simp [empty, resources]

theorem Sound.mono {b : Book} {next next' : Nat} (h : b.Sound next) (hle : next ≤ next') :
    b.Sound next' := { h with below := fun n hn => (h.below n hn).trans_le hle }

/-- A new balance opens an account or leaves it open, and closes none. -/
theorem contains_insert {b : Book} {account other : Int64} {balance : Decimal}
    (h : b.balances.contains account) : (b.balances.insert other balance).contains account := by
  rw [Dict.contains, Dict.find?_insert]
  split
  · rfl
  · exact h

theorem Sound.openAccount {b : Book} {next : Nat} (h : b.Sound next) (account : Int64)
    (balance : Decimal) : { b with balances := b.balances.insert account balance }.Sound next :=
  { h with isOpen := fun t ht => contains_insert (h.isOpen t ht) }

theorem Sound.transaction {b : Book} {next : Nat} (h : b.Sound next) {t : Transaction}
    (hnumber : t.resource = next) (hpositive : t.amount.isPositive) (balance : Decimal) :
    Sound { b with
      balances := b.balances.insert t.account balance
      transactions := b.transactions ++ [t] } (next + 1) where
  increasing := by
    rw [resources, List.map_append, List.pairwise_append]
    refine ⟨h.increasing, List.pairwise_singleton _ _, fun n hn m hm => ?_⟩
    rw [List.mem_singleton.1 hm, hnumber]
    exact h.below n hn
  below n hn := by
    rw [resources, List.map_append, List.mem_append] at hn
    rcases hn with hn | hn
    · exact (h.below n hn).trans (Nat.lt_succ_self _)
    · rw [List.mem_singleton.1 hn, hnumber]
      exact Nat.lt_succ_self _
  referenced d hd := by
    rw [resources, List.map_append]
    exact List.mem_append_left _ (h.referenced d hd)
  positive u hu := by
    rcases List.mem_append.1 hu with hu | hu
    · exact h.positive u hu
    · rw [List.mem_singleton.1 hu]
      exact hpositive
  isOpen u hu := by
    rcases List.mem_append.1 hu with hu | hu
    · exact contains_insert (h.isOpen u hu)
    · rw [List.mem_singleton.1 hu, Dict.contains, Dict.find?_insert_self]
      rfl

theorem Sound.detail {b : Book} {next : Nat} (h : b.Sound next) {d : Detail}
    (hd : d.resource ∈ b.resources) : Sound { b with details := b.details ++ [d] } next where
  increasing := h.increasing
  below := h.below
  positive := h.positive
  isOpen := h.isOpen
  referenced e he := by
    rcases List.mem_append.1 he with he | he
    · exact h.referenced e he
    · rw [List.mem_singleton.1 he]
      exact hd

end Book

namespace Progress

/-- The numbers that a batch gives out follow those that it found. -/
def Numbers (p q : Progress) : Prop :=
  p.book.Sound p.next →
    q.book.Sound q.next ∧ p.next ≤ q.next ∧
      q.book.resources = p.book.resources ++ List.range' p.next (q.next - p.next)

theorem numbers_refl (p : Progress) : p.Numbers p := fun h => ⟨h, le_rfl, by simp⟩

theorem numbers_trans (p q r : Progress) (hpq : p.Numbers q) (hqr : q.Numbers r) : p.Numbers r := by
  intro h
  obtain ⟨hq, hle, hres⟩ := hpq h
  obtain ⟨hr, hle', hres'⟩ := hqr hq
  refine ⟨hr, hle.trans hle', ?_⟩
  rw [hres', hres, List.append_assoc, range'_append_of_le hle hle']

/-- A transaction takes the next number and a detail takes none. -/
theorem numbers_of_advance {p q : Progress} {e : Entry} (hadv : p.Advance e q) : p.Numbers q := by
  intro h
  cases hadv with
  | transaction hopen hbalance =>
    rename_i account action amount paymentType x y
    have hsound := h.transaction (t := ⟨p.next, account, action, amount.value, paymentType⟩) rfl
      amount.positive y
    refine ⟨hsound, Nat.le_succ _, ?_⟩
    rw [Book.resources, List.map_append, Nat.add_sub_cancel_left]
    rfl
  | detail hmem hid =>
    rename_i table resource columns t
    have hold : t.resource ∈ p.book.resources := List.mem_map_of_mem hmem
    -- The number of a transaction that is there is not the next one.
    rw [if_neg (h.below _ hold).ne]
    exact ⟨h.detail hold, le_rfl, by simp [Book.resources]⟩

theorem numbers_of_run {index : Nat} {p q : Progress} {items : List BatchItem}
    (h : run index p items = .ok q) : p.Numbers q := by
  refine run_induction (Q := fun _ _ => True) numbers_refl numbers_trans ?_
    (throughout_of_forall (fun _ _ => trivial) p items) h
  intro p i q _ hstep
  obtain ⟨e, -, hadv⟩ := step_eq_ok hstep
  exact numbers_of_advance hadv

end Progress

namespace Ledger

def resources (l : Ledger) : List Nat := l.books.toList.flatMap fun e => e.2.resources

/-- A ledger whose transactions have exactly the numbers given out, and whose books are sound. -/
structure Sound (l : Ledger) : Prop where
  next_pos : 1 ≤ l.next
  numbered : l.resources.Perm (List.range' 1 (l.next - 1))
  books : ∀ tenant b, l.books.find? tenant = some b → b.Sound l.next

theorem sound_empty : empty.Sound := ⟨le_rfl, .refl _, fun _ _ h => by cases h⟩

theorem Sound.bookOf {l : Ledger} (h : l.Sound) (tenant : String) :
    (l.bookOf tenant).Sound l.next := by
  rw [Ledger.bookOf]
  cases hb : l.books.find? tenant with
  | none => exact Book.sound_empty _
  | some b => exact h.books tenant b hb

/-- The numbers of one book, and those of all others, which another book in its place keeps. -/
theorem resources_setBook (l : Ledger) (tenant : String) (b : Book) :
    ∃ others, l.resources.Perm ((l.bookOf tenant).resources ++ others) ∧
      (l.setBook tenant b).resources.Perm (b.resources ++ others) := by
  obtain ⟨rest, hold, hnew⟩ := l.books.insert_perm tenant b
  refine ⟨rest.flatMap fun e => e.2.resources, ?_, ?_⟩
  · have hperm := hold.flatMap_right fun e => e.2.resources
    rw [List.flatMap_append] at hperm
    rw [Ledger.bookOf, resources]
    cases hb : l.books.find? tenant with
    | none => simpa [hb, Book.resources, Book.empty] using hperm
    | some old => simpa [hb] using hperm
  · have hperm := hnew.flatMap_right fun e => e.2.resources
    rwa [List.flatMap_cons] at hperm

/-- A sound book with new numbers behind the old ones leaves the ledger sound. -/
theorem Sound.setBook {l : Ledger} (h : l.Sound) {tenant : String} {b : Book} {next : Nat}
    (hb : b.Sound next) (hle : l.next ≤ next)
    (hres : b.resources = (l.bookOf tenant).resources ++ List.range' l.next (next - l.next)) :
    Sound ⟨l.books.insert tenant b, next⟩ := by
  have hpos := h.next_pos
  refine ⟨hpos.trans hle, ?_, fun other c hc => ?_⟩
  · obtain ⟨others, hold, hnew⟩ := l.resources_setBook tenant b
    rw [hres, List.append_assoc] at hnew
    have hlast : ((l.bookOf tenant).resources ++
        (List.range' l.next (next - l.next) ++ others)).Perm
        (l.resources ++ List.range' l.next (next - l.next)) := by
      refine (List.perm_append_comm.append_left _).trans ?_
      rw [← List.append_assoc]
      exact hold.symm.append_right _
    have hall := (hnew.trans hlast).trans (h.numbered.append_right _)
    rwa [range'_append_of_le hpos hle] at hall
  · rw [Dict.find?_insert] at hc
    split at hc
    · rw [← Option.some.inj hc]
      exact hb
    · exact (h.books other c hc).mono hle

theorem Sound.exec {l : Ledger} (h : l.Sound) (c : Command) : (l.exec c).Sound := by
  cases c with
  | openAccount tenant account balance =>
    exact h.setBook ((h.bookOf tenant).openAccount account balance) le_rfl (by simp; rfl)
  | registerIban tenant iban record =>
    exact h.setBook { h.bookOf tenant with } le_rfl (by simp; rfl)
  | submit tenant items =>
    rcases exec_submit_cases l tenant items with hsame | ⟨receipt, hok⟩
    · rwa [hsame]
    · obtain ⟨b, p, hb, hrun, hl, -⟩ := submit_eq_ok hok
      obtain ⟨hp, hle, hres⟩ := Progress.numbers_of_run hrun (h.books tenant b hb)
      rw [hl]
      exact h.setBook hp hle (by rw [hres, bookOf_of_find? hb])

theorem sound_after (history : List Command) : (after history).Sound := by
  have hall : ∀ (cs : List Command) (l : Ledger), l.Sound → (l.execAll cs).Sound := by
    intro cs
    induction cs with
    | nil => exact fun l h => h
    | cons c cs ih => exact fun l h => ih _ (h.exec c)
  exact hall history empty sound_empty

/-- After any history the transactions of all tenants together have the numbers below the next one,
each once; those of one tenant increase; every detail is about a transaction of its tenant; and
every transaction has moved something on an account that its tenant has. -/
theorem resources_after (history : List Command) :
    (after history).resources.Perm (List.range' 1 ((after history).next - 1)) ∧
      1 ≤ (after history).next ∧
      ∀ tenant b, (after history).books.find? tenant = some b →
        (b.transactions.map Transaction.resource).Pairwise (· < ·) ∧
        (∀ d ∈ b.details, ∃ t ∈ b.transactions, t.resource = d.resource) ∧
        ∀ t ∈ b.transactions, t.amount.isPositive ∧ ∃ x, b.balances.find? t.account = some x := by
  have h := sound_after history
  refine ⟨h.numbered, h.next_pos, fun tenant b hb => ?_⟩
  have hbook := h.books tenant b hb
  refine ⟨hbook.increasing, fun d hd => ?_, fun t ht => ⟨hbook.positive t ht, ?_⟩⟩
  · exact List.mem_map.1 (hbook.referenced d hd)
  · exact Option.isSome_iff_exists.1 (hbook.isOpen t ht)

end Ledger

end PaymentBooking
