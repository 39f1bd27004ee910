import PaymentBooking.Booking.Plan
import PaymentBooking.Proofs.Ledger.Address
import PaymentBooking.Proofs.Ledger.History
import PaymentBooking.Proofs.Money

/-! # What is planned is what is posted

A plan goes to the ledger as addresses and texts, which the ledger reads on its own. It reads from
them what the plan has put in: every posting becomes one transaction of its account, command, amount
and payment type, with the next number, and one detail about that transaction.
-/

namespace PaymentBooking

namespace Entry

theorem ofItem_eq {i : BatchItem} {body : Json} {address : Address}
    (hbody : Json.parse? i.body = some body) (haddress : Address.read i.address = .ok address) :
    ofItem i = ofAddress body address := by
  rw [ofItem, hbody, haddress]
  rfl

theorem readAmount_of_text {body : Json} {amount : Amount}
    (h : body.member? "transactionAmount" = some (.text amount.value.text)) :
    readAmount body = .ok amount :=
  (readAmount_eq_ok_iff h).2 (Reading.amount_toJson amount)

theorem readPaymentType_of_ofInt64 {body : Json} {paymentType : Int64}
    (h : body.member? "paymentTypeId" = some (.ofInt64 paymentType)) :
    readPaymentType body = .ok paymentType := by
  rw [readPaymentType, h, Json.ofInt64]
  simp only [Json.Number.toInt64?_ofInt64]
  rfl

end Entry

namespace Posting

def transaction (q : Posting) (resource : Nat) : Transaction :=
  ⟨resource, q.leg.account, q.leg.action, q.leg.amount.value, q.paymentType⟩

variable {settings : LedgerSettings} {date : String} {statement : Statement}

/-! ## Reading the requests of a posting -/

theorem parse?_transactionBody (settings : LedgerSettings) (date : String) (q : Posting) :
    ∃ body, Json.parse? (q.transactionBody settings date).print = some body ∧
      body.member? "transactionDate" = some (.text date) ∧
      body.member? "transactionAmount" = some (.text q.leg.amount.value.text) ∧
      body.member? "paymentTypeId" = some (.ofInt64 q.paymentType) := by
  refine ⟨_, Json.parse?_print_object ?_, Json.member?_ofMembers ?_ ?_,
    Json.member?_ofMembers ?_ ?_, Json.member?_ofMembers ?_ ?_⟩
  · simp only [List.forall_mem_cons]
    exact ⟨Json.isReadable_text _, Json.isReadable_text _, Json.isReadable_ofInt64 _,
      Json.isReadable_text _, Json.isReadable_text _, Json.isReadable_text _, fun _ h => by cases h⟩
  all_goals simp

theorem entryOf_transactionItem (h : settings.Addressable) (p : Progress) (q : Posting) :
    p.entryOf (q.transactionItem settings date) =
      .ok (.transaction q.leg.account q.leg.action q.leg.amount q.paymentType) := by
  obtain ⟨body, hparse, -, hamount, hpaymentType⟩ := parse?_transactionBody settings date q
  have hitem : Entry.ofItem (q.transactionItem settings date) =
      Entry.ofAddress body (.transaction q.leg.account q.leg.action) :=
    Entry.ofItem_eq hparse (h.read_transaction _ _)
  refine bind_eq_ok_iff.2 ⟨q.transactionItem settings date, rfl, ?_⟩
  rw [hitem, Entry.ofAddress]
  exact bind_eq_ok_iff.2 ⟨_, Entry.readAmount_of_text hamount,
    bind_eq_ok_iff.2 ⟨_, Entry.readPaymentType_of_ofInt64 hpaymentType, rfl⟩⟩

/-- What the ledger reads from the second request, if it can read it, is a row of the configured
table about the resource of the request before. -/
theorem entryOf_detailItem {p : Progress} {q : Posting} {e : Entry} {n : Nat}
    (h : settings.Addressable) (hlast : p.receipt.getLast? = some n)
    (he : p.entryOf (q.detailItem settings statement) = .ok e) :
    ∃ resource columns, e = .detail settings.detailTable resource columns ∧ resource.toInt = n := by
  obtain ⟨i, hi, hentry⟩ := bind_eq_ok_iff.1 he
  rw [hlast] at hi
  obtain rfl := Except.ok.inj hi
  rw [Entry.ofItem] at hentry
  split at hentry
  · cases hentry
  · rename_i body hbody
    obtain ⟨address, haddress, hentry⟩ := bind_eq_ok_iff.1 hentry
    have hread := mapError_eq_ok_iff.1 haddress
    have hdetail := h.read_detail
      (rfl : ((q.detailItem settings statement).substitute n).address = _)
    rw [hdetail, Address.readDetail] at hread
    split at hread
    · rename_i resource hresource
      obtain rfl := Except.ok.inj hread
      exact ⟨resource, body, (Except.ok.inj hentry).symm,
        Text.toInt_of_readInt64?_repr hresource⟩
    · cases hread

end Posting

/-! ## Working off the requests of a plan -/

namespace Progress

/-- What postings make of a batch that is being worked off: each of them a transaction with the
next number and a detail about it, and that number twice in the receipt. -/
structure Posts (table : String) (p : Progress) (qs : List Posting) (r : Progress) : Prop where
  transactions : r.book.transactions =
    p.book.transactions ++ qs.mapIdx fun i q => q.transaction (p.next + i)
  details : ∃ rows, r.book.details = p.book.details ++ rows ∧
    rows.map (fun d => (d.resource, d.table)) =
      (List.range' p.next qs.length).map fun n => (n, table)
  receipt : r.receipt = p.receipt ++ (List.range' p.next qs.length).flatMap fun n => [n, n]
  next : r.next = p.next + qs.length

theorem posts_nil (table : String) (p : Progress) : p.Posts table [] p where
  transactions := by simp
  details := ⟨[], by simp, rfl⟩
  receipt := by simp
  next := rfl

theorem Posts.cons {table : String} {p p' r : Progress} {q : Posting} {qs : List Posting}
    (hhead : p.Posts table [q] p') (htail : p'.Posts table qs r) : p.Posts table (q :: qs) r := by
  have hnext : p'.next = p.next + 1 := hhead.next
  obtain ⟨rows, hrows, hrow⟩ := hhead.details
  obtain ⟨rows', hrows', hrow'⟩ := htail.details
  rw [hnext] at hrow'
  refine ⟨?_, ⟨rows ++ rows', ?_, ?_⟩, ?_, ?_⟩
  · have hshift : (fun i (a : Posting) => a.transaction (p.next + 1 + i)) =
        fun i a => a.transaction (p.next + (i + 1)) := by
      funext i a
      rw [Nat.add_right_comm, Nat.add_assoc]
    rw [htail.transactions, hhead.transactions, hnext, hshift, List.append_assoc]
    simp [List.mapIdx_cons]
  · rw [hrows', hrows, List.append_assoc]
  · rw [List.map_append, hrow, hrow', ← List.map_append]
    rfl
  · rw [htail.receipt, hhead.receipt, hnext, List.append_assoc]
    rfl
  · rw [htail.next, hnext, List.length_cons]
    omega

variable {settings : LedgerSettings} {date : String} {statement : Statement}

/-- The two requests of a posting, if neither is refused. -/
theorem posts_of_items {p p' p'' : Progress} {q : Posting} (h : settings.Addressable)
    (htransaction : p.step (q.transactionItem settings date) = .ok p')
    (hdetail : p'.step (q.detailItem settings statement) = .ok p'') :
    p.Posts settings.detailTable [q] p'' := by
  obtain ⟨e, he, hadv⟩ := step_eq_ok htransaction
  rw [Posting.entryOf_transactionItem h] at he
  obtain rfl := Except.ok.inj he
  cases hadv with
  | transaction hopen hbalance =>
    obtain ⟨e, he, hadv⟩ := step_eq_ok hdetail
    -- The resource of the request before is the new transaction.
    obtain ⟨resource, columns, rfl, hresource⟩ :=
      Posting.entryOf_detailItem h List.getLast?_concat he
    cases hadv with
    | detail hmem hid =>
      rename_i t
      rw [hresource] at hid
      have hnumber : t.resource = p.next := Int.ofNat_inj.1 hid
      have hother : ¬t.resource = p.next + 1 := by omega
      refine ⟨rfl, ⟨_, rfl, ?_⟩, ?_, if_neg hother⟩
      · rw [hnumber]
        rfl
      · simp [hnumber]

theorem posts_of_run {index : Nat} {p r : Progress} {qs : List Posting} (h : settings.Addressable)
    (hrun : run index p (qs.flatMap (Posting.items settings date statement)) = .ok r) :
    p.Posts settings.detailTable qs r := by
  induction qs generalizing index p with
  | nil =>
    obtain rfl := Except.ok.inj hrun
    exact posts_nil _ _
  | cons q qs ih =>
    obtain ⟨p', htransaction, hrun⟩ := run_cons_eq_ok hrun
    obtain ⟨p'', hdetail, hrun⟩ := run_cons_eq_ok hrun
    exact (posts_of_items h htransaction hdetail).cons (ih hrun)

end Progress

/-- A posting is a leg of the outline with the payment type that its tenant configures for it. -/
theorem Outline.plan_eq_ok {o : Outline} {plan : Plan} (h : o.plan = .ok plan) :
    plan.outline = o ∧
      List.Forall₂ (fun leg q => q.leg = leg ∧
        o.tenant.paymentType (leg.key o.scheme o.stage) = .ok q.paymentType) o.legs
        plan.postings := by
  obtain ⟨postings, hpostings, h⟩ := bind_eq_ok_iff.1 h
  obtain rfl := Except.ok.inj h
  refine ⟨rfl, (mapM_eq_ok hpostings).imp fun leg q hpost => ?_⟩
  obtain ⟨paymentType, hpaymentType, hq⟩ := bind_eq_ok_iff.1 hpost
  obtain rfl := Except.ok.inj hq
  exact ⟨rfl, hpaymentType⟩

end PaymentBooking
