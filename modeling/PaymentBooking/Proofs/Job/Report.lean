import PaymentBooking.Proofs.Booking.Resolution
import PaymentBooking.Proofs.Job.Effect

/-! # What a completed booking reports

A job that is completed reports its variables with the correlation id and the date under which it
has been booked, whether they were given or worked out: the very texts that stand in the requests
which the ledger has accepted. A credit off a technical account also reports that account.
-/

namespace PaymentBooking

/-- What a job reports agrees with the batch that has been submitted for it. -/
structure Plan.Reports (plan : Plan) (settings : LedgerSettings) (vars output : Variables) :
    Prop where
  correlationId : output.find? "internalCorrelationId" = some (.text plan.correlationId)
  /-- The id stands in every detail. -/
  details : ∀ i ∈ (plan.batch settings).items, i.dependent = true →
    ∃ body, Json.parse? i.body = some body ∧
      body.member? "internal_correlation_id" = some (.text plan.correlationId)
  /-- The date that is reported stands in every transaction. -/
  date : ∃ date, output.find? "transactionDate" = some (.text date) ∧
    ∀ i ∈ (plan.batch settings).items, i.dependent = false →
      ∃ body, Json.parse? i.body = some body ∧
        body.member? "transactionDate" = some (.text date)
  /-- The account that is reported is the one that the transaction addresses. -/
  account : plan.stage = .technicalCredit → ∃ account transaction detail,
    (plan.batch settings).items = [transaction, detail] ∧
    transaction.address =
      settings.relativeBase ++ toString account ++ "/transactions?command=withdrawal" ∧
    output.find? "technicalAccountAmsId" = some (.ofInt64 account)
  others : ∀ name, name ≠ "internalCorrelationId" → name ≠ "transactionDate" →
    (plan.stage = .technicalCredit → name ≠ "technicalAccountAmsId") →
      output.find? name = vars.find? name

namespace Plan

variable {settings : LedgerSettings} {plan : Plan} {i : BatchItem}

theorem mem_items_iff :
    i ∈ (plan.batch settings).items ↔ ∃ q ∈ plan.postings,
      i = q.transactionItem settings plan.outline.date ∨
        i = q.detailItem settings plan.outline.statement := by
  simp [batch, Posting.items]

theorem member?_of_mem_details (hi : i ∈ (plan.batch settings).items) (h : i.dependent = true) :
    ∃ body, Json.parse? i.body = some body ∧
      body.member? "internal_correlation_id" = some (.text plan.correlationId) := by
  obtain ⟨q, -, rfl | rfl⟩ := mem_items_iff.1 hi
  · cases h
  · obtain ⟨body, hparse, hbody⟩ := plan.outline.statement.parse?_row q
    refine ⟨body, hparse, (hbody _ _).2 ⟨_, ?_, rfl⟩⟩
    exact List.mem_cons_self

theorem member?_of_mem_transactions (hi : i ∈ (plan.batch settings).items)
    (h : i.dependent = false) :
    ∃ body, Json.parse? i.body = some body ∧
      body.member? "transactionDate" = some (.text plan.outline.date) := by
  obtain ⟨q, -, rfl | rfl⟩ := mem_items_iff.1 hi
  · obtain ⟨body, hparse, hdate, -⟩ :=
      Posting.parse?_transactionBody settings plan.outline.date q
    exact ⟨body, hparse, hdate⟩
  · cases h

end Plan

/-- The batch of a credit off a technical account has one transaction, on that account. -/
theorem BookingStage.items_of_technicalCredit {env : Environment} {vars : Variables} {plan : Plan}
    (h : BookingStage.technicalCredit.plan env vars = .ok plan) :
    ∃ l transaction detail, l ∈ plan.outline.legs ∧
      (plan.batch env.settings).items = [transaction, detail] ∧
      transaction.address =
        env.settings.relativeBase ++ toString l.account ++ "/transactions?command=withdrawal" := by
  obtain ⟨o, houtline, ho⟩ := bind_eq_ok_iff.1 h
  obtain ⟨hsame, hlegs, -⟩ := Outline.legs_of_plan ho
  obtain ⟨r, -, hr⟩ := bind_eq_ok_iff.1 houtline
  obtain ⟨tenant, id, account, entry, -, -, -, -, rfl⟩ :=
    TechnicalCreditRequest.outline_eq_ok_iff.1 hr
  obtain ⟨q, hpostings, hleg⟩ := List.map_eq_singleton_iff.1 hlegs.symm
  refine ⟨q.leg, q.transactionItem env.settings plan.outline.date,
    q.detailItem env.settings plan.outline.statement, ?_, ?_, ?_⟩
  · rw [hsame, hleg]
    exact List.mem_singleton_self _
  · rw [Plan.batch, hpostings]
    rfl
  · simp [Posting.transactionItem, Address.ofTransaction, hleg, LedgerAction.command,
      String.append_assoc]

theorem BookingStage.reports_of_plan {stage : BookingStage} {env : Environment} {vars : Variables}
    {plan : Plan} (h : stage.plan env vars = .ok plan) :
    plan.Reports env.settings vars (plan.output vars) := by
  obtain ⟨o, houtline, ho⟩ := bind_eq_ok_iff.1 h
  obtain ⟨rfl, -, -⟩ := Outline.legs_of_plan ho
  have hreported := reportedIn_of_outline houtline
  refine ⟨hreported.correlationId, fun i => Plan.member?_of_mem_details,
    ⟨_, hreported.date, fun i => Plan.member?_of_mem_transactions⟩, fun hstage => ?_,
    hreported.others⟩
  obtain rfl : stage = .technicalCredit := (stage_of_outline houtline).symm.trans hstage
  obtain ⟨l, transaction, detail, hl, hitems, haddress⟩ := items_of_technicalCredit h
  exact ⟨l.account, transaction, detail, hitems, haddress, hreported.account hstage l hl⟩

/-- What a completed booking reports is what has been booked. -/
theorem Worker.reports_of_handle {env : Environment} {l l' : Ledger} {job : Job}
    {stage : BookingStage} {output : Variables} (htype : job.type = stage.jobType)
    (h : handle env l job = (l', .ok (.completed output))) :
    ∃ plan receipt, stage.plan env job.vars = .ok plan ∧ plan.stage = stage ∧
      l.submit (plan.batch env.settings).tenant (plan.batch env.settings).items =
        (l', .ok receipt) ∧
      plan.Reports env.settings job.vars output := by
  obtain ⟨plan, hplan, hsubmit⟩ := (handle_eq_completed_iff htype).1 h
  obtain ⟨⟨receipt, haccepted⟩, rfl⟩ := Plan.submit_eq_ok_iff.1 hsubmit
  obtain ⟨o, houtline, ho⟩ := bind_eq_ok_iff.1 hplan
  obtain ⟨rfl, -, -⟩ := Outline.legs_of_plan ho
  exact ⟨plan, receipt, hplan, BookingStage.stage_of_outline houtline, haccepted,
    BookingStage.reports_of_plan hplan⟩

/-- A job that books a cancelled payment. -/
def Job.cancelling : Job := ⟨1, "depositTheAmountOnDisposalInAms", .cancelling⟩

/-- That job reports the id and the day that have been worked out for it. -/
theorem Worker.reports_of_handle_cancelling :
    ∃ plan l' output, handle .reverting .reverting .cancelling = (l', .ok (.completed output)) ∧
      Job.cancelling.type = BookingStage.disposalDeposit.jobType ∧
      BookingStage.disposalDeposit.plan .reverting .cancelling = .ok plan ∧
      plan.correlationId = "BANK_20240130_E1" ∧
      plan.Reports Environment.reverting.settings .cancelling output := by
  have htype : Job.cancelling.type = BookingStage.disposalDeposit.jobType := rfl
  have hsettings : Environment.reverting.settings.Addressable :=
    LedgerSettings.addressable_standard
  -- The postings are settled as such: the texts of their requests are too long to be evaluated.
  have hplanned : (BookingStage.disposalDeposit.plan .reverting .cancelling).toOption.any
      fun plan => plan.correlationId = "BANK_20240130_E1" ∧ plan.outline.tenant.name = "t" ∧
        (Progress.settleAll Environment.reverting.settings plan.outline.statement 0
          ⟨Ledger.reverting.bookOf "t", Ledger.reverting.next, []⟩
          plan.postings).toOption.isSome := by
    decide +kernel
  obtain ⟨plan, hplan, hplanned⟩ := (Option.any_eq_true _ _).1 hplanned
  have hplan := toOption_eq_some_iff.1 hplan
  obtain ⟨hid, htenant, hsettled⟩ := of_decide_eq_true hplanned
  obtain ⟨p, hp⟩ := Option.isSome_iff_exists.1 hsettled
  obtain ⟨b, hbook⟩ : ∃ b, Ledger.reverting.books.find? "t" = some b :=
    ⟨_, Dict.find?_insert_self ..⟩
  have hb : Ledger.reverting.bookOf "t" = b := Ledger.bookOf_of_find? hbook
  have hroom : Ledger.reverting.HasRoom 4 := by decide
  have hsubmit := plan.submit_eq_settleAll hsettings (htenant ▸ hbook)
    (hroom.mono (BookingStage.length_postings_le hplan)) .cancelling
  rw [← hb, toOption_eq_some_iff.1 hp] at hsubmit
  have hhandle := (handle_eq_completed_iff htype).2 ⟨plan, hplan, hsubmit⟩
  obtain ⟨booked, -, hbooked, -, -, hreports⟩ := reports_of_handle htype hhandle
  obtain rfl : plan = booked := Except.ok.inj (hplan.symm.trans hbooked)
  exact ⟨plan, _, _, hhandle, htype, hbooked, hid, hreports⟩

end PaymentBooking
