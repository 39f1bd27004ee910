import PaymentBooking.Proofs.Booking.Posting
import PaymentBooking.Proofs.Json.Substitution

/-! # How the postings of a plan are settled

A posting is settled if its account is open and covers it, and is refused otherwise. Once the
transaction is there, the detail about it cannot be refused, whatever the texts of the statement
are. So a batch of a plan does to the book what its legs do to the balances, and nothing but the
balances decides whether it is accepted.
-/

namespace PaymentBooking

/-- The next numbers, so many of them, are numbers that an address can give: those of 64 bits. -/
def Ledger.HasRoom (l : Ledger) (count : Nat) : Prop := l.next + count ≤ 2 ^ 63

instance (l : Ledger) (count : Nat) : Decidable (l.HasRoom count) :=
  inferInstanceAs (Decidable (_ ≤ _))

theorem Ledger.HasRoom.mono {l : Ledger} {m n : Nat} (h : l.HasRoom n) (hle : m ≤ n) :
    l.HasRoom m := (Nat.add_le_add_left hle l.next).trans h

theorem Ledger.HasRoom.of_le {l l' : Ledger} {n : Nat} (h : l'.HasRoom n)
    (hnext : l.next ≤ l'.next) : l.HasRoom n := (Nat.add_le_add_right hnext n).trans h

/-- Numbers that have been given out are not needed any more. -/
theorem Ledger.HasRoom.behind {l l' : Ledger} {m n : Nat} (h : l.HasRoom (m + n))
    (hnext : l'.next = l.next + m) : l'.HasRoom n := by
  rw [HasRoom, hnext, Nat.add_assoc]
  exact h

namespace Posting

def detail (settings : LedgerSettings) (statement : Statement) (q : Posting) (resource : Nat) :
    Detail where
  resource
  table := settings.detailTable
  columns := .filled resource (statement.columns q)

variable {settings : LedgerSettings} {date : String} {statement : Statement}

/-- The ledger reads from the second request the detail of the posting. -/
theorem entryOf_detailItem_of_lt {p : Progress} {n : Nat} (h : settings.Addressable)
    (hlast : p.receipt.getLast? = some n) (hn : n < 2 ^ 63) (q : Posting) :
    p.entryOf (q.detailItem settings statement) =
      .ok (.detail settings.detailTable (Int64.ofInt n)
        (q.detail settings statement n).columns) := by
  have hbody : Json.parse? ((q.detailItem settings statement).substitute n).body =
      some (q.detail settings statement n).columns :=
    Json.parse?_replaceAll_print_object n (statement.columns q)
  have hfits : Text.fitsWord (n : Int) := by
    simp [Text.fitsWord]
    omega
  have hread := h.read_detail
    (rfl : ((q.detailItem settings statement).substitute n).address = _)
  have hnumber : toString n = toString (n : Int) := rfl
  rw [hnumber, Address.readDetail, Text.readInt64?_toString_int hfits] at hread
  refine bind_eq_ok_iff.2 ⟨(q.detailItem settings statement).substitute n, ?_, ?_⟩
  · rw [hlast]
    rfl
  · rw [Entry.ofItem_eq hbody hread, Entry.ofAddress]

end Posting

namespace Book

theorem postDetail_of_mem {b : Book} {n : Nat} (hmem : n ∈ b.transactions.map Transaction.resource)
    (hn : n < 2 ^ 63) (table : String) (columns : Json) :
    b.postDetail table (Int64.ofInt n) columns =
      .ok ({ b with details := b.details ++ [⟨n, table, columns⟩] }, n) := by
  have hnumber : (Int64.ofInt n).toInt = n := Int64.toInt_ofInt_of_le (by omega) (by omega)
  obtain ⟨t, ht, htn⟩ := List.mem_map.1 hmem
  cases hfind : b.find? (Int64.ofInt n) with
  | none =>
    rw [find?, List.find?_eq_none] at hfind
    exact absurd (by simp [hnumber, htn]) (hfind t ht)
  | some u =>
    have hu : u.resource = n := by
      have := List.find?_some hfind
      simpa [hnumber] using this
    rw [postDetail, hfind]
    simp only [hu]

end Book

namespace Progress

/-- A batch in which a posting has been entered under the next number and has left these
balances. -/
def posted (settings : LedgerSettings) (statement : Statement) (p : Progress) (q : Posting)
    (balances : Dict Int64 Decimal) : Progress :=
  ⟨{ p.book with
      balances
      transactions := p.book.transactions ++ [q.transaction p.next]
      details := p.book.details ++ [q.detail settings statement p.next] },
    p.next + 1, p.receipt ++ [p.next, p.next]⟩

def settle (settings : LedgerSettings) (statement : Statement) (p : Progress) (q : Posting) :
    Except PostingFault Progress := do
  let book ← p.book.postTransaction (q.transaction p.next)
  .ok ⟨{ book with details := book.details ++ [q.detail settings statement p.next] }, p.next + 1,
    p.receipt ++ [p.next, p.next]⟩

/-- Settles postings one after the other; `index` is that of the first request. -/
def settleAll (settings : LedgerSettings) (statement : Statement) (index : Nat) (p : Progress) :
    List Posting → Except Failure Progress
  | [] => .ok p
  | q :: qs => do
    let p ← (p.settle settings statement q).mapError (failure index)
    settleAll settings statement (index + 2) p qs

variable {settings : LedgerSettings} {date : String} {statement : Statement} {index : Nat}
  {p p' : Progress} {q : Posting} {qs : List Posting}

theorem settle_eq_ok (h : p.settle settings statement q = .ok p') :
    ∃ x y, p.book.balances.find? q.leg.account = some x ∧
      Book.newBalance q.leg.account q.leg.action x q.leg.amount.value = .ok y ∧
      p' = p.posted settings statement q (p.book.balances.insert q.leg.account y) := by
  obtain ⟨b, hpost, h⟩ := bind_eq_ok_iff.1 h
  obtain ⟨x, y, hx, hy, rfl⟩ := Book.postTransaction_eq_ok hpost
  exact ⟨x, y, hx, hy, (Except.ok.inj h).symm⟩

/-- The two requests of a posting settle it. -/
theorem run_items_append (h : settings.Addressable) (hp : p.next < 2 ^ 63) (q : Posting)
    (rest : List BatchItem) :
    run index p (q.items settings date statement ++ rest) =
      (p.settle settings statement q).mapError (failure index) >>= fun p =>
        run (index + 2) p rest := by
  have htransaction : p.step (q.transactionItem settings date) =
      (p.book.postTransaction (q.transaction p.next)).map fun b =>
        ⟨b, p.next + 1, p.receipt ++ [p.next]⟩ := by
    rw [step, Posting.entryOf_transactionItem h]
    change p.post _ = _
    rw [post, enter]
    change _ = (p.book.postTransaction ⟨p.next, q.leg.account, q.leg.action, q.leg.amount.value,
      q.paymentType⟩).map _
    cases p.book.postTransaction ⟨p.next, q.leg.account, q.leg.action, q.leg.amount.value,
        q.paymentType⟩ with
    | error fault => rfl
    | ok b => exact congrArg Except.ok (by simp)
  rw [Posting.items, List.cons_append, List.singleton_append, run, htransaction, settle]
  cases hpost : p.book.postTransaction (q.transaction p.next) with
  | error fault => rfl
  | ok b =>
    obtain ⟨x, y, -, -, rfl⟩ := Book.postTransaction_eq_ok hpost
    -- The transaction is the last of the book, and its number that of the request before.
    have hdetail : step
        ⟨{ p.book with
            balances := p.book.balances.insert (q.transaction p.next).account y
            transactions := p.book.transactions ++ [q.transaction p.next] },
          p.next + 1, p.receipt ++ [p.next]⟩ (q.detailItem settings statement) =
        .ok (p.posted settings statement q (p.book.balances.insert q.leg.account y)) := by
      rw [step, Posting.entryOf_detailItem_of_lt h List.getLast?_concat hp]
      change post _ _ = _
      rw [post, enter, Book.postDetail_of_mem (by simp [Posting.transaction]) hp]
      simp [bind, Except.bind, posted, Posting.detail, Posting.transaction]
    change run (index + 1) _ _ = run (index + 2) _ _
    rw [run, hdetail]
    rfl

/-- The batch of a plan settles its postings, as long as there are numbers for all of them. -/
theorem run_flatMap_items (date : String) (statement : Statement) (index : Nat)
    (h : settings.Addressable) (hroom : p.next + qs.length ≤ 2 ^ 63) :
    run index p (qs.flatMap (Posting.items settings date statement)) =
      settleAll settings statement index p qs := by
  induction qs generalizing index p with
  | nil => rfl
  | cons q qs ih =>
    rw [List.length_cons] at hroom
    rw [List.flatMap_cons, run_items_append h (by omega), settleAll]
    cases hsettle : p.settle settings statement q with
    | error fault => rfl
    | ok p' =>
      obtain ⟨x, y, -, -, rfl⟩ := settle_eq_ok hsettle
      exact ih (index + 2) (by dsimp only [posted]; omega)

end Progress

theorem Plan.submit_of_unknown {plan : Plan} {l : Ledger}
    (hbook : l.books.find? plan.outline.tenant.name = none) (env : Environment)
    (vars : Variables) :
    plan.submit env l vars =
      (l, .error (.error (.ledger (.unknownTenant plan.outline.tenant.name)))) := by
  rw [submit, batch, Ledger.submit_of_unknown hbook]
  rfl

/-- The batch of a plan is accepted if its postings can be settled on the book of the tenant. -/
theorem Ledger.submit_of_settleAll {plan : Plan} {settings : LedgerSettings} {l : Ledger}
    {b : Book} {p : Progress} (hsettings : settings.Addressable)
    (hbook : l.books.find? plan.outline.tenant.name = some b)
    (hroom : l.HasRoom plan.postings.length)
    (h : Progress.settleAll settings plan.outline.statement 0 ⟨b, l.next, []⟩ plan.postings =
      .ok p) :
    l.submit (plan.batch settings).tenant (plan.batch settings).items =
      (⟨l.books.insert plan.outline.tenant.name p.book, p.next⟩, .ok p.receipt) :=
  submit_of_run hbook ((Progress.run_flatMap_items plan.outline.date plan.outline.statement 0
    (p := ⟨b, l.next, []⟩) hsettings hroom).trans h)

/-- A plan for a tenant that has a book is submitted by settling its postings on that book. -/
theorem Plan.submit_eq_settleAll {plan : Plan} {env : Environment} {l : Ledger} {b : Book}
    (hsettings : env.settings.Addressable)
    (hbook : l.books.find? plan.outline.tenant.name = some b)
    (hroom : l.HasRoom plan.postings.length) (vars : Variables) :
    plan.submit env l vars =
      match Progress.settleAll env.settings plan.outline.statement 0 ⟨b, l.next, []⟩
        plan.postings with
      | .ok p =>
        (⟨l.books.insert plan.outline.tenant.name p.book, p.next⟩, .ok (plan.output vars))
      | .error failure => (l, .error failure) := by
  rw [submit]
  cases hsettle : Progress.settleAll env.settings plan.outline.statement 0 ⟨b, l.next, []⟩
      plan.postings with
  | ok p =>
    rw [Ledger.submit_of_settleAll hsettings hbook hroom hsettle]
    rfl
  | error failure =>
    have hrun := Progress.run_flatMap_items plan.outline.date plan.outline.statement 0
      (p := ⟨b, l.next, []⟩) hsettings hroom
    rw [batch, Ledger.submit_of_run_eq_error hbook (hrun.trans hsettle)]
    rfl

/-- What is planned is what is posted. If the batch of a plan is accepted, the transactions grow by
the planned legs in their order, numbered from the next number on, the details by one row of the
configured table for each of them, and the receipt names each number twice. -/
theorem Plan.posted_of_submit {stage : BookingStage} {env : Environment} {vars : Variables}
    {plan : Plan} {l l' : Ledger} {receipt : List Nat} (hsettings : env.settings.Addressable)
    (hplan : stage.plan env vars = .ok plan)
    (hsubmit : l.submit (plan.batch env.settings).tenant (plan.batch env.settings).items =
      (l', .ok receipt)) :
    (∃ o, stage.outline env vars = .ok o ∧ plan.outline = o ∧
      List.Forall₂ (fun leg q => q.leg = leg ∧
        o.tenant.paymentType (leg.key o.scheme o.stage) = .ok q.paymentType)
        o.legs plan.postings) ∧
    (l'.bookOf plan.outline.tenant.name).transactions =
      (l.bookOf plan.outline.tenant.name).transactions ++
        plan.postings.mapIdx (fun i q =>
          ⟨l.next + i, q.leg.account, q.leg.action, q.leg.amount.value, q.paymentType⟩) ∧
    (∃ rows, (l'.bookOf plan.outline.tenant.name).details =
        (l.bookOf plan.outline.tenant.name).details ++ rows ∧
      rows.map (fun d => (d.resource, d.table)) =
        (List.range' l.next plan.postings.length).map fun n => (n, env.settings.detailTable)) ∧
    receipt = ((List.range' l.next plan.postings.length).flatMap fun n => [n, n]) ∧
    l'.next = l.next + plan.postings.length := by
  obtain ⟨o, houtline, ho⟩ := bind_eq_ok_iff.1 hplan
  obtain ⟨b, p, hb, hrun, rfl, rfl⟩ := Ledger.submit_eq_ok hsubmit
  have hposts := Progress.posts_of_run hsettings hrun
  obtain ⟨rows, hrows, hresources⟩ := hposts.details
  have hbefore : l.bookOf plan.outline.tenant.name = b := Ledger.bookOf_of_find? hb
  have hafter : Ledger.bookOf ⟨l.books.insert plan.outline.tenant.name p.book, p.next⟩
      plan.outline.tenant.name = p.book := Ledger.bookOf_of_find? (Dict.find?_insert_self ..)
  refine ⟨⟨o, houtline, Outline.plan_eq_ok ho⟩, ?_, ⟨rows, ?_, hresources⟩, ?_, hposts.next⟩
  · rw [hbefore]
    exact (congrArg Book.transactions hafter).trans hposts.transactions
  · rw [hbefore]
    exact (congrArg Book.details hafter).trans hrows
  · exact hposts.receipt

/-- An environment in which an outgoing payment can be undone. -/
def Environment.reverting : Environment where
  settings := .standard
  directory := .ofList [("t", ⟨.ofList
    [("S.revertInAms.ConversionAccount.WithdrawTransactionAmount", 7),
     ("S.revertInAms.ConversionAccount.WithdrawTransactionFee", 8),
     ("S.revertInAms.DisposalAccount.DepositTransactionAmount", 9),
     ("S.revertInAms.DisposalAccount.DepositTransactionFee", 10)], none, none⟩)]
  clock := fun _ => "20240131"

/-- The variables of a job that undoes a payment with a fee. -/
def Variables.reverting : Variables :=
  .ofList
    [("tenantIdentifier", .text "t"), ("paymentScheme", .text "S"),
     ("internalCorrelationId", .text "id"), ("transactionDate", .text "20240131"),
     ("amount", .text "100.00"), ("transactionFeeAmount", .text "2.5"),
     ("transactionCategoryPurposeCode", .text "CASH"),
     ("transactionFeeCategoryPurposeCode", .text "FEES"),
     ("conversionAccountAmsId", .ofInt64 11), ("disposalAccountAmsId", .ofInt64 12),
     ("originalPain001", .text
       "\x7b\"Document\":\x7b\"PmtInf\":[\x7b\"CdtTrfTxInf\":[\x7b\x7d]\x7d]\x7d\x7d")]

/-- That job can be planned, with a fee on both sides. -/
theorem BookingStage.plan_reverting :
    ∃ plan, BookingStage.revert.plan .reverting .reverting = .ok plan ∧
      plan.postings.length = 4 := by
  have hplanned : (BookingStage.revert.plan .reverting .reverting).toOption.any
      fun plan => plan.postings.length = 4 := by
    decide +kernel
  obtain ⟨plan, hplan, hlength⟩ := (Option.any_eq_true _ _).1 hplanned
  exact ⟨plan, toOption_eq_some_iff.1 hplan, of_decide_eq_true hlength⟩

/-- A ledger on which amount and fee of a payment are just covered. -/
def Ledger.reverting : Ledger :=
  (Ledger.empty.openAccount "t" 11 ((Decimal.read? "102.50").getD .zero)).openAccount "t" 12
    ((Decimal.read? "-1.005").getD .zero)

/-- That ledger with numbers given out before. -/
def Ledger.numbered : Ledger := { Ledger.reverting with next := 41 }

theorem Plan.posted_reverting :
    Environment.reverting.settings.Addressable ∧
      ∃ plan l',
        BookingStage.revert.plan .reverting .reverting = .ok plan ∧
        plan.postings.map (fun q => (q.leg.account, q.leg.action, q.paymentType)) =
          [(11, .withdrawal, 7), (11, .withdrawal, 8), (12, .deposit, 9), (12, .deposit, 10)] ∧
        Ledger.numbered.submit (plan.batch Environment.reverting.settings).tenant
            (plan.batch Environment.reverting.settings).items =
          (l', .ok [41, 41, 42, 42, 43, 43, 44, 44]) ∧
        (l'.bookOf plan.outline.tenant.name).transactions =
          (Ledger.numbered.bookOf plan.outline.tenant.name).transactions ++
            plan.postings.mapIdx (fun i q =>
              ⟨41 + i, q.leg.account, q.leg.action, q.leg.amount.value, q.paymentType⟩) ∧
        (∃ rows, (l'.bookOf plan.outline.tenant.name).details =
            (Ledger.numbered.bookOf plan.outline.tenant.name).details ++ rows ∧
          rows.map (fun d => (d.resource, d.table)) =
            [41, 42, 43, 44].map fun n => (n, "dt_savings_transaction_details")) ∧
        l'.next = 45 := by
  have hplanned : (BookingStage.revert.plan .reverting .reverting).toOption.any fun plan =>
      plan.outline.tenant.name = "t" ∧
        plan.postings.map (fun q => (q.leg.account, q.leg.action, q.paymentType)) =
          [(11, .withdrawal, 7), (11, .withdrawal, 8), (12, .deposit, 9), (12, .deposit, 10)] ∧
        (Progress.settleAll .standard plan.outline.statement 0
          ⟨Ledger.reverting.bookOf "t", 41, []⟩ plan.postings).toOption.isSome := by
    decide +kernel
  obtain ⟨plan, hplan, hfound⟩ := exists_of_any hplanned
  obtain ⟨htenant, hpostings, hsettled⟩ := of_decide_eq_true hfound
  obtain ⟨p, hp⟩ := Option.isSome_iff_exists.1 hsettled
  have hlength : plan.postings.length = 4 := by simpa using congrArg List.length hpostings
  have hbook : Ledger.numbered.books.find? plan.outline.tenant.name =
      some (Ledger.reverting.bookOf "t") := by
    rw [htenant]
    rfl
  have haddressable : Environment.reverting.settings.Addressable :=
    LedgerSettings.addressable_standard
  have hsubmit := Ledger.submit_of_settleAll haddressable hbook
    (by rw [hlength]; decide) (toOption_eq_some_iff.1 hp)
  obtain ⟨-, htransactions, hdetails, hreceipt, hnext⟩ :=
    posted_of_submit haddressable hplan hsubmit
  rw [hlength] at hdetails hreceipt hnext
  rw [hreceipt] at hsubmit
  exact ⟨LedgerSettings.addressable_standard, plan, _, hplan, hpostings, hsubmit, htransactions,
    hdetails, hnext⟩

end PaymentBooking
