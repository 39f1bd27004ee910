import PaymentBooking.Proofs.Dict
import PaymentBooking.Proofs.Ledger.History
import PaymentBooking.Proofs.Ledger.Overflow

/-! # Batches in parts

A batch can be cut before any item that refers to no other. The whole then does what its two parts
do one after the other: the same ledger, the same numbers in the receipt, and the same refusal,
which the whole reports at the index that its item has there. Nothing is left of a first part that
is accepted if the second one is refused within the whole.
-/

namespace PaymentBooking

/-- The failure of a batch as it is reported with so many items in front. -/
def Failure.behind (count : Nat) : Failure → Failure
  | .error (.refused index refusal) => .error (.refused (count + index) refusal)
  | failure => failure

/-- A part that begins with no item that refers to another one. -/
def BatchItem.Begins (items : List BatchItem) : Prop := ∀ i ∈ items.head?, i.dependent = false

instance (items : List BatchItem) : Decidable (BatchItem.Begins items) :=
  inferInstanceAs (Decidable (∀ i ∈ items.head?, _))

namespace Progress

/-- What is worked off with resources of other items in front of its own. -/
def behind (front : List Nat) (p : Progress) : Progress := { p with receipt := front ++ p.receipt }

theorem behind_failure (count index : Nat) (fault : PostingFault) :
    (failure index fault).behind count = failure (count + index) fault := by
  cases fault <;> rfl

/-! ## One item -/

/-- An item refers at most to the one right before it. -/
theorem entryOf_behind {p : Progress} {i : BatchItem} (front : List Nat)
    (h : p.receipt = [] → i.dependent = false) : (p.behind front).entryOf i = p.entryOf i := by
  have hresolve : i.resolve (front ++ p.receipt).getLast? = i.resolve p.receipt.getLast? := by
    by_cases hnil : p.receipt = []
    · have hfree := h hnil
      simp [BatchItem.resolve, hfree]
    · rw [List.getLast?_append_of_ne_nil _ hnil]
  rw [entryOf, entryOf, behind, hresolve]

theorem post_behind (front : List Nat) (p : Progress) (e : Entry) :
    (p.behind front).post e = (p.post e).map (behind front) := by
  have henter : (p.behind front).enter e = p.enter e := by cases e <;> rfl
  rw [post, post, henter]
  cases p.enter e with
  | error fault => rfl
  | ok entered => exact congrArg Except.ok (by simp [behind]; rfl)

/-- Items in front change nothing about an item that does not refer to them. -/
theorem step_behind {p : Progress} {i : BatchItem} (front : List Nat)
    (h : p.receipt = [] → i.dependent = false) :
    (p.behind front).step i = (p.step i).map (behind front) := by
  rw [step, step, entryOf_behind front h]
  cases p.entryOf i with
  | error refusal => rfl
  | ok e => exact post_behind front p e

theorem receipt_ne_nil_of_step {p q : Progress} {i : BatchItem} (h : p.step i = .ok q) :
    q.receipt ≠ [] := by
  obtain ⟨e, -, hadv⟩ := step_eq_ok h
  cases hadv <;> simp

/-! ## Runs -/

/-- A run with other items in front goes as it goes alone, but for the indices of its items. -/
theorem run_behind {p : Progress} {items : List BatchItem} (front : List Nat) (count index : Nat)
    (h : p.receipt = [] → BatchItem.Begins items) :
    run (count + index) (p.behind front) items =
      ((run index p items).mapError (Failure.behind count)).map (behind front) := by
  induction items generalizing p index with
  | nil => rfl
  | cons i items ih =>
    rw [run, run, step_behind front fun hnil => h hnil i rfl]
    cases hstep : p.step i with
    | error fault => exact congrArg Except.error (behind_failure count index fault).symm
    | ok q =>
      -- From here on there is an item before every other one.
      exact ih (index + 1) fun hnil => absurd hnil (receipt_ne_nil_of_step hstep)

/-- Items behind others are worked off on what these have left, if they leave anything. -/
theorem run_append (index : Nat) (p : Progress) (before rest : List BatchItem) :
    run index p (before ++ rest) =
      run index p before >>= fun q => run (index + before.length) q rest := by
  cases hbefore : run index p before with
  | ok q => exact run_append_of_run hbefore
  | error failure =>
    change _ = Except.error failure
    induction before generalizing index p with
    | nil => cases hbefore
    | cons i before ih =>
      rw [List.cons_append, run]
      rcases bind_eq_error_iff.1 hbefore with hstep | ⟨q, hstep, hrun⟩
      · rw [hstep]
        rfl
      · rw [hstep]
        exact ih (index + 1) q hrun

end Progress

namespace Ledger

variable {l l' : Ledger} {tenant : String} {first second : List BatchItem} {r : List Nat}

theorem submit_append_of_error {failure : Failure}
    (hfirst : l.submit tenant first = (l', .error failure)) :
    l.submit tenant (first ++ second) = (l, .error failure) := by
  obtain ⟨-, ⟨hbook, rfl⟩ | ⟨b, hbook, hrun⟩⟩ := submit_eq_error_iff.1 hfirst
  · exact submit_of_unknown hbook
  · apply submit_of_run_eq_error hbook
    rw [Progress.run_append, hrun]
    rfl

/-- Behind a part that is accepted the second part does what it does to the ledger that this part
leaves, but if it fails there nothing is left of the first part either. -/
theorem submit_append_of_ok (h : BatchItem.Begins second)
    (hfirst : l.submit tenant first = (l', .ok r)) :
    (∀ l'' s, l'.submit tenant second = (l'', .ok s) →
      l.submit tenant (first ++ second) = (l'', .ok (r ++ s))) ∧
    ∀ m failure, l'.submit tenant second = (m, .error failure) →
      l.submit tenant (first ++ second) = (l, .error (failure.behind first.length)) := by
  obtain ⟨b, q, hbook, hrun, rfl, rfl⟩ := submit_eq_ok hfirst
  have hbehind := Progress.run_behind (p := ⟨q.book, q.next, []⟩) q.receipt first.length 0
    fun _ => h
  have hsame : Progress.behind q.receipt ⟨q.book, q.next, []⟩ = q := by simp [Progress.behind]
  have hwhole := Progress.run_append 0 ⟨b, l.next, []⟩ first second
  rw [hrun] at hwhole
  change _ = Progress.run (0 + first.length) q second at hwhole
  rw [hsame, Nat.add_zero] at hbehind
  rw [Nat.zero_add, hbehind] at hwhole
  have hself : (l.books.insert tenant q.book).find? tenant = some q.book :=
    Dict.find?_insert_self ..
  constructor
  · intro l'' s hsecond
    obtain ⟨b', p, hbook', hrest, rfl, rfl⟩ := submit_eq_ok hsecond
    obtain rfl : q.book = b' := Option.some.inj (hself.symm.trans hbook')
    rw [hrest] at hwhole
    rw [submit_of_run hbook hwhole]
    simp [Progress.behind, Dict.insert_insert]
  · intro m failure hsecond
    obtain ⟨-, ⟨hbook', -⟩ | ⟨b', hbook', hrest⟩⟩ := submit_eq_error_iff.1 hsecond
    · cases hself.symm.trans hbook'
    · obtain rfl : q.book = b' := Option.some.inj (hself.symm.trans hbook')
      rw [hrest] at hwhole
      exact submit_of_run_eq_error hbook hwhole

/-- A batch whose second part begins with no reference is accepted exactly if its parts are accepted
one after the other, with the ledger that they leave and their receipts one behind the other. If the
first part fails, the whole fails as it does; if only the second is refused, the whole is refused at
the same item, counted from its own beginning. In both cases the ledger stays as it was. -/
theorem submit_parts (l : Ledger) (tenant : String) (first : List BatchItem)
    (h : BatchItem.Begins second) :
    (∀ l'' receipt, l.submit tenant (first ++ second) = (l'', .ok receipt) ↔
      ∃ l' r s, l.submit tenant first = (l', .ok r) ∧ l'.submit tenant second = (l'', .ok s) ∧
        receipt = r ++ s) ∧
    (∀ m failure, l.submit tenant first = (m, .error failure) →
      l.submit tenant (first ++ second) = (l, .error failure)) ∧
    (∀ l' r m index refusal, l.submit tenant first = (l', .ok r) →
      l'.submit tenant second = (m, .error (.error (.refused index refusal))) →
        l.submit tenant (first ++ second) =
          (l, .error (.error (.refused (first.length + index) refusal)))) := by
  refine ⟨fun l'' receipt => ?_, fun m failure hfirst => submit_append_of_error hfirst,
    fun l' r m index refusal hfirst hsecond => (submit_append_of_ok h hfirst).2 m _ hsecond⟩
  constructor
  · intro hwhole
    rcases hfirst : l.submit tenant first with ⟨l', failure | r⟩
    · rw [submit_append_of_error hfirst] at hwhole
      cases hwhole
    · obtain ⟨hok, herror⟩ := submit_append_of_ok h hfirst
      rcases hsecond : l'.submit tenant second with ⟨m, failure | s⟩
      · rw [herror m failure hsecond] at hwhole
        cases hwhole
      · rw [hok m s hsecond] at hwhole
        cases hwhole
        exact ⟨l', r, s, rfl, hsecond, rfl⟩
  · rintro ⟨l', r, s, hfirst, hsecond, rfl⟩
    exact (submit_append_of_ok h hfirst).1 l'' s hsecond

/-- A ledger with two accounts of one tenant. -/
def joint : Ledger :=
  after
    [.openAccount "t" 7 ((Decimal.read? "100.50").getD .zero), .openAccount "t" 8 .zero]

/-- A withdrawal that is covered and a row about it. -/
def taking : List BatchItem :=
  [⟨"accounts/7/transactions?command=withdrawal",
      "\x7b\"transactionAmount\":\"40.25\",\"paymentTypeId\":3\x7d", false⟩,
    ⟨"datatables/rows/$.resourceId", "\x7b\"about\":\"$.resourceId\"\x7d", true⟩]

/-- A deposit of what has been withdrawn and a row about it. -/
def giving : List BatchItem :=
  [⟨"accounts/8/transactions?command=deposit",
      "\x7b\"transactionAmount\":\"40.25\",\"paymentTypeId\":4\x7d", false⟩,
    ⟨"datatables/rows/$.resourceId", "\x7b\"about\":\"$.resourceId\"\x7d", true⟩]

/-- A withdrawal that the first one leaves covered, and one that it does not. -/
def overtaking : List BatchItem :=
  [⟨"accounts/7/transactions?command=withdrawal",
      "\x7b\"transactionAmount\":\"60\",\"paymentTypeId\":3\x7d", false⟩,
    ⟨"accounts/7/transactions?command=withdrawal",
      "\x7b\"transactionAmount\":\"0.26\",\"paymentTypeId\":3\x7d", false⟩]

theorem submit_parts_taking :
    BatchItem.Begins giving ∧ BatchItem.Begins overtaking ∧
      (∃ l' l'' r s, joint.submit "t" taking = (l', .ok r) ∧ l'.submit "t" giving = (l'', .ok s) ∧
        joint.submit "t" (taking ++ giving) = (l'', .ok (r ++ s)) ∧ r ++ s = [1, 1, 2, 2]) ∧
      joint.submit "t" (taking ++ overtaking) =
        (joint, .error (.error (.refused 3 (.insufficientFunds 7)))) := by
  have hgiving : BatchItem.Begins giving := by decide
  have hovertaking : BatchItem.Begins overtaking := by decide
  refine ⟨hgiving, hovertaking, ?_, ?_⟩
  · have hwhole : (joint.submit "t" (taking ++ giving)).2.toOption.any fun receipt =>
        receipt = [1, 1, 2, 2] := by
      decide +kernel
    obtain ⟨l'', receipt, hok, hreceipt⟩ := exists_of_snd_any hwhole
    obtain ⟨l', r, s, hfirst, hsecond, rfl⟩ :=
      ((submit_parts joint "t" taking hgiving).1 l'' receipt).1 hok
    exact ⟨l', l'', r, s, hfirst, hsecond, hok, of_decide_eq_true hreceipt⟩
  · have hfirst : (joint.submit "t" taking).2.toOption.any fun _ => true := by decide +kernel
    have hparts : ((joint.submit "t" taking).1.submit "t" overtaking).2 =
        .error (.error (.refused 1 (.insufficientFunds 7))) := by
      decide +kernel
    obtain ⟨l', r, hfirst, -⟩ := exists_of_snd_any hfirst
    rw [hfirst] at hparts
    exact (submit_parts joint "t" taking hovertaking).2.2 l' r _ 1 _ hfirst
      (Prod.ext rfl hparts)

end Ledger

end PaymentBooking
