import PaymentBooking.Proofs.Booking.Settlement
import PaymentBooking.Proofs.Decimal.Sum

/-! # What legs do to balances

Legs are moved one after the other, each on the balance that the leg before it has left. Legs that
all go the same way on one account move the sum of their amounts if no sum is rounded, and if they
are withdrawn, exactly if the balance covers that sum.
-/

namespace PaymentBooking

/-- What a command adds to a balance for a value. -/
def LedgerAction.signed : LedgerAction → ℚ → ℚ
  | .deposit, v => v
  | .withdrawal, v => -v

namespace LedgerAction

@[simp] theorem signed_zero (action : LedgerAction) : action.signed 0 = 0 := by
  cases action <;> simp [signed]

theorem signed_add (action : LedgerAction) (v w : ℚ) :
    action.signed (v + w) = action.signed v + action.signed w := by
  cases action <;> simp [signed, add_comm]

/-- On the way to a sum, a balance is between where it begins and where it ends. -/
theorem abs_add_signed_le (action : LedgerAction) {x v w : ℚ} (hv : 0 ≤ v) (hw : 0 ≤ w) :
    |x + action.signed v| ≤ max |x| |x + action.signed (v + w)| := by
  cases action with
  | deposit => exact abs_le_max_abs_abs (by simp [signed, hv]) (by simp [signed, hw])
  | withdrawal =>
    simp only [signed]
    rw [max_comm]
    exact abs_le_max_abs_abs (by linarith) (by linarith)

end LedgerAction

/-- A new balance that has no more than so many digits and is in range is exact. -/
theorem Book.newBalance_of_lt (account : Int64) {action : LedgerAction} {x a : Decimal} {k : ℕ}
    (hx : x.scale ≤ k) (ha : a.scale ≤ k) (hcovered : action = .withdrawal → a.toRat ≤ x.toRat)
    (hfit : |x.toRat + action.signed a.toRat| * 10 ^ k < 2 ^ 96) :
    ∃ y, newBalance account action x a = .ok y ∧ y.toRat = x.toRat + action.signed a.toRat ∧
      y.scale ≤ k := by
  cases action with
  | deposit =>
    obtain ⟨y, hy, hval, hscale⟩ := Decimal.add?_of_lt hx ha hfit
    exact ⟨y, newBalance_deposit_eq_ok_iff.2 hy, hval, hscale⟩
  | withdrawal =>
    have hneg : a.negate.toRat = LedgerAction.withdrawal.signed a.toRat := Decimal.toRat_negate a
    have hless : x.isLess a = false := by
      rw [← Bool.not_eq_true, Decimal.isLess_iff, not_lt]
      exact hcovered rfl
    rw [← hneg] at hfit ⊢
    obtain ⟨y, hy, hval, hscale⟩ := Decimal.add?_of_lt (b := a.negate) hx ha hfit
    exact ⟨y, newBalance_withdrawal_eq_ok_iff.2 ⟨hless, hy⟩, hval, hscale⟩

/-- One balance has moved by a value and has at most so many digits; no other has changed. -/
structure Shifted (account : Int64) (v : ℚ) (k : ℕ) (b b' : Dict Int64 Decimal) : Prop where
  moved : ∀ x, b.find? account = some x →
    ∃ y, b'.find? account = some y ∧ y.toRat = x.toRat + v ∧ y.scale ≤ k
  others : ∀ other ≠ account, b'.find? other = b.find? other

theorem Shifted.trans {account : Int64} {v w : ℚ} {k : ℕ} {b b' b'' : Dict Int64 Decimal}
    (h : Shifted account v k b b') (h' : Shifted account w k b' b'') :
    Shifted account (v + w) k b b'' where
  moved x hx := by
    obtain ⟨y, hy, hxy, -⟩ := h.moved x hx
    obtain ⟨z, hz, hyz, hscale⟩ := h'.moved y hy
    exact ⟨z, hz, by rw [hyz, hxy, add_assoc], hscale⟩
  others other hne := (h'.others other hne).trans (h.others other hne)

namespace Leg

def move (balances : Dict Int64 Decimal) (leg : Leg) : Except PostingFault (Dict Int64 Decimal) :=
  match balances.find? leg.account with
  | none => .error (.refused (.unknownAccount leg.account))
  | some x =>
    (Book.newBalance leg.account leg.action x leg.amount.value).map (balances.insert leg.account)

def moveAll (index : Nat) (balances : Dict Int64 Decimal) :
    List Leg → Except Failure (Dict Int64 Decimal)
  | [] => .ok balances
  | leg :: legs => do
    let balances ← (leg.move balances).mapError (Progress.failure index)
    moveAll (index + 2) balances legs

variable {index : Nat} {balances : Dict Int64 Decimal}

theorem moveAll_append (index : Nat) (balances : Dict Int64 Decimal) (legs rest : List Leg) :
    moveAll index balances (legs ++ rest) =
      moveAll index balances legs >>= fun balances =>
        moveAll (index + 2 * legs.length) balances rest := by
  induction legs generalizing index balances with
  | nil => rfl
  | cons leg legs ih =>
    rw [List.cons_append, moveAll, moveAll]
    cases (leg.move balances).mapError (Progress.failure index) with
    | error failure => rfl
    | ok b =>
      have hindex : index + 2 * (leg :: legs).length = index + 2 + 2 * legs.length := by
        rw [List.length_cons]
        omega
      rw [hindex]
      exact ih (index + 2) b

theorem moveAll_of_unknown {leg : Leg} {legs : List Leg}
    (h : balances.find? leg.account = none) :
    moveAll index balances (leg :: legs) =
      .error (.error (.refused index (.unknownAccount leg.account))) := by
  rw [moveAll, move, h]
  rfl

theorem moveAll_of_isLess {leg : Leg} {legs : List Leg} {x : Decimal}
    (h : balances.find? leg.account = some x) (haction : leg.action = .withdrawal)
    (hless : x.isLess leg.amount.value) :
    moveAll index balances (leg :: legs) =
      .error (.error (.refused index (.insufficientFunds leg.account))) := by
  rw [moveAll, move, h, haction]
  simp only [Book.newBalance, hless, if_true]
  rfl

theorem moveAll_of_newBalance {leg : Leg} {legs : List Leg} {x y : Decimal}
    (h : balances.find? leg.account = some x)
    (hy : Book.newBalance leg.account leg.action x leg.amount.value = .ok y) :
    moveAll index balances (leg :: legs) =
      moveAll (index + 2) (balances.insert leg.account y) legs := by
  rw [moveAll, move, h]
  simp only [hy]
  rfl

section SameAccount

variable {account : Int64} {action : LedgerAction} {k : ℕ}

/-- The legs all have one account and one command, and amounts of at most so many digits. -/
def Along (account : Int64) (action : LedgerAction) (k : ℕ) (legs : List Leg) : Prop :=
  ∀ leg ∈ legs, leg.account = account ∧ leg.action = action ∧ leg.amount.value.scale ≤ k

def total (legs : List Leg) : ℚ := (legs.map fun leg => leg.amount.value.toRat).sum

theorem total_nonneg (legs : List Leg) : 0 ≤ total legs := by
  apply List.sum_nonneg
  intro v hv
  obtain ⟨leg, -, rfl⟩ := List.mem_map.1 hv
  exact ((Decimal.isPositive_iff _).1 leg.amount.positive).le

theorem total_cons (leg : Leg) (legs : List Leg) :
    total (leg :: legs) = leg.amount.value.toRat + total legs := by simp [total]

/-- Legs that the balance covers move the sum of their amounts. -/
theorem moveAll_of_covered (index : Nat) {legs : List Leg} (hlegs : Along account action k legs)
    {x : Decimal} (hx : balances.find? account = some x) (hscale : x.scale ≤ k)
    (hbegin : |x.toRat| * 10 ^ k < 2 ^ 96)
    (hend : |x.toRat + action.signed (total legs)| * 10 ^ k < 2 ^ 96)
    (hcovered : action = .withdrawal → total legs ≤ x.toRat) :
    ∃ b, moveAll index balances legs = .ok b ∧
      Shifted account (action.signed (total legs)) k balances b := by
  induction legs generalizing index balances x with
  | nil =>
    refine ⟨balances, rfl, fun z hz => ⟨z, hz, by simp [total], ?_⟩, fun _ _ => rfl⟩
    rwa [← Option.some.inj (hx.symm.trans hz)]
  | cons leg legs ih =>
    obtain ⟨rfl, rfl, hamount⟩ := hlegs leg List.mem_cons_self
    have hpos := ((Decimal.isPositive_iff _).1 leg.amount.positive).le
    have hrest := total_nonneg legs
    rw [total_cons] at hend hcovered ⊢
    -- The balance between the legs is in range because both its ends are.
    have hmiddle : |x.toRat + leg.action.signed leg.amount.value.toRat| * 10 ^ k < 2 ^ 96 := by
      have hle := leg.action.abs_add_signed_le (x := x.toRat) hpos hrest
      rcases le_max_iff.1 hle with hle | hle
      · exact (mul_le_mul_of_nonneg_right hle (by positivity)).trans_lt hbegin
      · exact (mul_le_mul_of_nonneg_right hle (by positivity)).trans_lt hend
    obtain ⟨y, hy, hval, hyscale⟩ := Book.newBalance_of_lt leg.account hscale hamount
      (fun hw => by linarith [hcovered hw]) hmiddle
    have hfind : (balances.insert leg.account y).find? leg.account = some y :=
      Dict.find?_insert_self ..
    have hfirst : Shifted leg.account (leg.action.signed leg.amount.value.toRat) k balances
        (balances.insert leg.account y) := by
      refine ⟨fun z hz => ?_, fun other hne => Dict.find?_insert_of_ne _ hne _⟩
      obtain rfl := Option.some.inj (hx.symm.trans hz)
      exact ⟨y, hfind, hval, hyscale⟩
    obtain ⟨b, hb, hshifted⟩ := ih (index + 2)
      (fun l hl => hlegs l (List.mem_cons_of_mem _ hl)) hfind hyscale (hval ▸ hmiddle)
      (by rwa [hval, add_assoc, ← LedgerAction.signed_add])
      (fun hw => by
        rw [hval, hw, LedgerAction.signed]
        linarith [hcovered hw])
    refine ⟨b, (moveAll_of_newBalance hx hy).trans hb, ?_⟩
    rw [LedgerAction.signed_add]
    exact hfirst.trans hshifted

/-- Withdrawals that the balance does not cover together are refused, one of them at least. -/
theorem moveAll_of_not_covered (index : Nat) {legs : List Leg}
    (hlegs : Along account .withdrawal k legs) {x : Decimal}
    (hx : balances.find? account = some x) (hscale : x.scale ≤ k)
    (hbegin : |x.toRat| * 10 ^ k < 2 ^ 96) (hshort : x.toRat < total legs)
    (hsolvent : 0 ≤ x.toRat ∨ legs ≠ []) :
    ∃ i, moveAll index balances legs =
      .error (.error (.refused i (.insufficientFunds account))) := by
  induction legs generalizing index balances x with
  | nil =>
    have hzero : total ([] : List Leg) = 0 := rfl
    rw [hzero] at hshort
    rcases hsolvent with h | h
    · linarith
    · exact absurd rfl h
  | cons leg legs ih =>
    obtain ⟨rfl, haction, hamount⟩ := hlegs leg List.mem_cons_self
    have hpos := (Decimal.isPositive_iff _).1 leg.amount.positive
    by_cases hless : x.isLess leg.amount.value
    · exact ⟨index, moveAll_of_isLess hx haction hless⟩
    · have hle : leg.amount.value.toRat ≤ x.toRat := by
        rwa [Decimal.isLess_iff, not_lt] at hless
      have hmiddle : |x.toRat + LedgerAction.withdrawal.signed leg.amount.value.toRat| * 10 ^ k <
          2 ^ 96 := by
        have habs :
            |x.toRat + LedgerAction.withdrawal.signed leg.amount.value.toRat| ≤ |x.toRat| := by
          rw [LedgerAction.signed, abs_of_nonneg (by linarith), abs_of_nonneg (by linarith)]
          linarith
        exact (mul_le_mul_of_nonneg_right habs (by positivity)).trans_lt hbegin
      obtain ⟨y, hy, hval, hyscale⟩ := Book.newBalance_of_lt leg.account hscale hamount
        (fun _ => hle) hmiddle
      rw [total_cons] at hshort
      have hfind : (balances.insert leg.account y).find? leg.account = some y :=
        Dict.find?_insert_self ..
      obtain ⟨i, hi⟩ := ih (index + 2) (fun l hl => hlegs l (List.mem_cons_of_mem _ hl)) hfind
        hyscale (hval ▸ hmiddle)
        (by
          rw [hval, LedgerAction.signed]
          linarith)
        (.inl (by
          rw [hval, LedgerAction.signed]
          linarith))
      refine ⟨i, (moveAll_of_newBalance hx ?_).trans hi⟩
      rw [haction]
      exact hy

end SameAccount

end Leg

/-- A posting does to the balances what its leg does, and nothing else to the book but to add its
transaction. -/
theorem Book.postTransaction_eq_move (b : Book) (q : Posting) (resource : Nat) :
    b.postTransaction (q.transaction resource) =
      (q.leg.move b.balances).map fun balances =>
        { b with balances, transactions := b.transactions ++ [q.transaction resource] } := by
  simp only [postTransaction, Posting.transaction, Leg.move]
  cases b.balances.find? q.leg.account with
  | none => rfl
  | some x =>
    dsimp only
    cases newBalance q.leg.account q.leg.action x q.leg.amount.value <;> rfl

namespace Progress

/-- A posting is settled exactly if its leg can be moved. -/
theorem settle_eq_move (settings : LedgerSettings) (statement : Statement) (p : Progress)
    (q : Posting) :
    p.settle settings statement q =
      (q.leg.move p.book.balances).map (p.posted settings statement q) := by
  rw [settle, Book.postTransaction_eq_move]
  cases q.leg.move p.book.balances <;> rfl

/-- The batch of a plan is refused, or changes the balances, as its legs do. IBANs stay. -/
theorem settleAll_agree (settings : LedgerSettings) (statement : Statement) (index : Nat)
    (p : Progress) (qs : List Posting) :
    Agree (fun r balances => r.book.balances = balances ∧ r.book.ibans = p.book.ibans)
      (settleAll settings statement index p qs)
      (Leg.moveAll index p.book.balances (qs.map Posting.leg)) := by
  induction qs generalizing index p with
  | nil => exact .ok ⟨rfl, rfl⟩
  | cons q qs ih =>
    rw [settleAll, settle_eq_move, List.map_cons, Leg.moveAll]
    cases q.leg.move p.book.balances with
    | error fault => exact .error _
    | ok balances => exact ih (index + 2) (p.posted settings statement q balances)

end Progress

end PaymentBooking
