import PaymentBooking.Lookup
import PaymentBooking.Proofs.Booking.Resolution
import PaymentBooking.Proofs.Job.Effect

/-! # Jobs that are run again

What a job reports can be given to a job of the same stage again: whatever was worked out the first
time is then found under its own name, so that the same is booked, on whichever day. A lookup finds
again what it has reported.
-/

namespace PaymentBooking

open Reading.RecordReader

/-! ## Requests -/

section Requests

variable {settings : LedgerSettings} {directory : TenantDirectory} {clock clock' : Clock}
  {stage : BookingStage} {vars output : Variables} {o : Outline}

/-- What has not been worked out is reported as it was. -/
theorem Outline.ReportedIn.find?_eq (h : o.ReportedIn vars output) {name : String}
    (hname : name ∉ ["internalCorrelationId", "transactionDate", "technicalAccountAmsId"]) :
    output.find? name = vars.find? name := by
  simp only [List.mem_cons, List.not_mem_nil, or_false, not_or] at hname
  exact h.others name hname.1 hname.2.1 fun _ => hname.2.2

theorem Outline.ReportedIn.text?_correlationId (h : o.ReportedIn vars output) :
    output.text? "internalCorrelationId" = some o.statement.correlationId :=
  Variables.text?_eq_some_iff.2 h.correlationId

theorem Outline.ReportedIn.text?_date (h : o.ReportedIn vars output) :
    output.text? "transactionDate" = some o.date := Variables.text?_eq_some_iff.2 h.date

theorem BookingContext.ReadFrom.reported {c : BookingContext} (hc : c.ReadFrom vars)
    (h : o.ReportedIn vars output) :
    { c with correlationId := some o.statement.correlationId }.ReadFrom output where
  tenant := (build_required_congr (h.find?_eq (by decide))).trans hc.tenant
  scheme := (build_required_congr (h.find?_eq (by decide))).trans hc.scheme
  correlationId := build_optional_text_eq_ok h.text?_correlationId
  groupId := (build_optional_congr (h.find?_eq (by decide))).trans hc.groupId
  purpose := (build_optional_congr (h.find?_eq (by decide))).trans hc.purpose

namespace TechnicalCreditRequest

variable {r : TechnicalCreditRequest}

/-- The request with the correlation id and the date under which it has been booked. -/
def asBooked (r : TechnicalCreditRequest) (o : Outline) : TechnicalCreditRequest :=
  { r with
    date := o.date
    context := { r.context with correlationId := some o.statement.correlationId } }

theorem read_output (hread : read vars = .ok r) (h : o.ReportedIn vars output) :
    read output = .ok (r.asBooked o) := by
  have hr := read_eq_ok_iff.1 hread
  exact read_eq_ok_iff.2 {
    date := build_required_text_eq_ok_iff.2 h.text?_date
    amount := (build_required_congr (h.find?_eq (by decide))).trans hr.amount
    case := (build_required_congr (h.find?_eq (by decide))).trans hr.case
    pacs008 := (build_required_congr (h.find?_eq (by decide))).trans hr.pacs008
    context := hr.context.reported h }

theorem outline_asBooked (h : r.outline directory = .ok o) :
    (r.asBooked o).outline directory = .ok o := by
  obtain ⟨tenant, id, account, entry, htenant, -, haccount, hentry, rfl⟩ := outline_eq_ok_iff.1 h
  exact outline_eq_ok_iff.2 ⟨tenant, id, account, entry, htenant, rfl, haccount, hentry, rfl⟩

end TechnicalCreditRequest

namespace ConversionCreditRequest

variable {r : ConversionCreditRequest}

/-- The request with the correlation id and the date under which it has been booked. -/
def asBooked (r : ConversionCreditRequest) (o : Outline) : ConversionCreditRequest :=
  { r with
    date := o.date
    context := { r.context with correlationId := some o.statement.correlationId } }

theorem read_output (hread : read vars = .ok r) (h : o.ReportedIn vars output) :
    read output = .ok (r.asBooked o) := by
  have hr := read_eq_ok_iff.1 hread
  exact read_eq_ok_iff.2 {
    date := build_required_text_eq_ok_iff.2 h.text?_date
    amount := (build_required_congr (h.find?_eq (by decide))).trans hr.amount
    conversionAccount :=
      (build_required_congr (h.find?_eq (by decide))).trans hr.conversionAccount
    pacs008 := (build_optional_congr (h.find?_eq (by decide))).trans hr.pacs008
    pacs004 := (build_optional_congr (h.find?_eq (by decide))).trans hr.pacs004
    creditorIban := (build_optional_congr (h.find?_eq (by decide))).trans hr.creditorIban
    context := hr.context.reported h }

theorem outline_asBooked (h : r.outline directory stage = .ok o) :
    (r.asBooked o).outline directory stage = .ok o := by
  obtain ⟨tenant, id, entry, htenant, -, hentry, rfl⟩ := outline_eq_ok_iff.1 h
  exact outline_eq_ok_iff.2 ⟨tenant, id, entry, htenant, rfl, hentry, rfl⟩

end ConversionCreditRequest

namespace ConversionDebitRequest

variable {r : ConversionDebitRequest}

/-- The request with the correlation id and the date under which it has been booked. -/
def asBooked (r : ConversionDebitRequest) (o : Outline) : ConversionDebitRequest :=
  { r with
    date := o.date
    context := { r.context with correlationId := some o.statement.correlationId } }

theorem read_output (hread : read vars = .ok r) (h : o.ReportedIn vars output) :
    read output = .ok (r.asBooked o) := by
  have hr := read_eq_ok_iff.1 hread
  exact read_eq_ok_iff.2 {
    date := build_required_text_eq_ok_iff.2 h.text?_date
    amount := (build_required_congr (h.find?_eq (by decide))).trans hr.amount
    fee := (build_required_congr (h.find?_eq (by decide))).trans hr.fee
    feePurpose := (build_optional_congr (h.find?_eq (by decide))).trans hr.feePurpose
    conversionAccount :=
      (build_required_congr (h.find?_eq (by decide))).trans hr.conversionAccount
    pain001 := (build_required_congr (h.find?_eq (by decide))).trans hr.pain001
    context := hr.context.reported h }

theorem outline_asBooked (h : r.outline directory = .ok o) :
    (r.asBooked o).outline directory = .ok o := by
  obtain ⟨tenant, id, entry, htenant, -, hentry, rfl⟩ := outline_eq_ok_iff.1 h
  exact outline_eq_ok_iff.2 ⟨tenant, id, entry, htenant, rfl, hentry, rfl⟩

end ConversionDebitRequest

namespace RevertRequest

variable {r : RevertRequest}

/-- The request with the correlation id and the date under which it has been booked. -/
def asBooked (r : RevertRequest) (o : Outline) : RevertRequest :=
  { r with
    date := some o.date
    context := { r.context with correlationId := some o.statement.correlationId } }

theorem read_output (hread : read vars = .ok r) (h : o.ReportedIn vars output) :
    read output = .ok (r.asBooked o) := by
  have hr := read_eq_ok_iff.1 hread
  exact read_eq_ok_iff.2 {
    date := build_optional_text_eq_ok h.text?_date
    amount := (build_required_congr (h.find?_eq (by decide))).trans hr.amount
    fee := (build_required_congr (h.find?_eq (by decide))).trans hr.fee
    feePurpose := (build_optional_congr (h.find?_eq (by decide))).trans hr.feePurpose
    conversionAccount :=
      (build_required_congr (h.find?_eq (by decide))).trans hr.conversionAccount
    disposalAccount := (build_required_congr (h.find?_eq (by decide))).trans hr.disposalAccount
    pain001 := (build_required_congr (h.find?_eq (by decide))).trans hr.pain001
    debtorIban := (build_optional_congr (h.find?_eq (by decide))).trans hr.debtorIban
    context := hr.context.reported h }

/-- A date that is given is taken, whatever the stage and the day. -/
theorem bookingDate_asBooked :
    (r.asBooked o).bookingDate settings clock stage = .ok (o.date, .empty) := by
  rw [bookingDate]
  split <;> rfl

theorem outline_asBooked (h : r.outline settings directory clock stage = .ok o) :
    (r.asBooked o).outline settings directory clock' stage = .ok { o with resolved := .empty } := by
  obtain ⟨tenant, id, date, resolved, entry, htenant, -, -, hentry, rfl⟩ := outline_eq_ok_iff.1 h
  exact outline_eq_ok_iff.2
    ⟨tenant, id, date, .empty, entry, htenant, rfl, bookingDate_asBooked, hentry, rfl⟩

end RevertRequest

namespace DisposalDepositRequest

variable {r : DisposalDepositRequest}

/-- The request with the correlation id and the date under which it has been booked. -/
def asBooked (r : DisposalDepositRequest) (o : Outline) : DisposalDepositRequest :=
  { r with
    date := some o.date
    context := { r.context with correlationId := some o.statement.correlationId } }

theorem read_output (hread : read vars = .ok r) (h : o.ReportedIn vars output) :
    read output = .ok (r.asBooked o) := by
  have hr := read_eq_ok_iff.1 hread
  exact read_eq_ok_iff.2 {
    date := build_optional_text_eq_ok h.text?_date
    amount := (build_required_congr (h.find?_eq (by decide))).trans hr.amount
    conversionAccount :=
      (build_required_congr (h.find?_eq (by decide))).trans hr.conversionAccount
    disposalAccount := (build_required_congr (h.find?_eq (by decide))).trans hr.disposalAccount
    camt056 := (build_required_congr (h.find?_eq (by decide))).trans hr.camt056
    debtorIban := (build_optional_congr (h.find?_eq (by decide))).trans hr.debtorIban
    context := hr.context.reported h }

/-- With the id given, the group that is missing is that id again. -/
theorem outline_asBooked (h : r.outline settings directory clock = .ok o) :
    (r.asBooked o).outline settings directory clock' = .ok { o with resolved := .empty } := by
  obtain ⟨tenant, id, resolvedId, date, resolvedDate, entry, htenant, -, -, hentry, rfl⟩ :=
    outline_eq_ok_iff.1 h
  exact outline_eq_ok_iff.2
    ⟨tenant, id, .empty, date, .empty, entry, htenant, rfl, rfl, hentry, rfl⟩

end DisposalDepositRequest

end Requests

/-! ## Stages -/

theorem BookingStage.outline_output {stage : BookingStage} {settings : LedgerSettings}
    {directory : TenantDirectory} {clock : Clock} (clock' : Clock) {vars : Variables} {o : Outline}
    (h : stage.outline ⟨settings, directory, clock⟩ vars = .ok o) :
    ∃ resolved, stage.outline ⟨settings, directory, clock'⟩
      (vars.insertMany o.resolved.toList) = .ok { o with resolved } := by
  have hreported := reportedIn_of_outline h
  -- Each request is read again with the id and the date of its booking, and outlines the same.
  simp only [outline_eq_ok_iff] at h ⊢
  cases h with
  | technicalCredit hread h =>
    exact ⟨_, .technicalCredit (TechnicalCreditRequest.read_output hread hreported)
      (TechnicalCreditRequest.outline_asBooked h)⟩
  | conversionCredit hstage hread h =>
    exact ⟨_, .conversionCredit hstage (ConversionCreditRequest.read_output hread hreported)
      (ConversionCreditRequest.outline_asBooked h)⟩
  | conversionDebit hread h =>
    exact ⟨_, .conversionDebit (ConversionDebitRequest.read_output hread hreported)
      (ConversionDebitRequest.outline_asBooked h)⟩
  | revert hstage hread h =>
    exact ⟨_, .revert hstage (RevertRequest.read_output hread hreported)
      (RevertRequest.outline_asBooked h)⟩
  | disposalDeposit hread h =>
    exact ⟨_, .disposalDeposit (DisposalDepositRequest.read_output hread hreported)
      (DisposalDepositRequest.outline_asBooked h)⟩

/-- What an outline has worked out has no part in its plan. -/
theorem Outline.plan_of_resolved {o : Outline} {plan : Plan} (resolved : Variables)
    (h : o.plan = .ok plan) :
    Outline.plan { o with resolved } = .ok ⟨{ o with resolved }, plan.postings⟩ := by
  obtain ⟨postings, hpostings, h⟩ := bind_eq_ok_iff.1 h
  cases h
  exact bind_eq_ok_iff.2 ⟨postings, hpostings, rfl⟩

theorem BookingStage.plan_output {stage : BookingStage} {settings : LedgerSettings}
    {directory : TenantDirectory} {clock : Clock} (clock' : Clock) {vars : Variables} {plan : Plan}
    (h : stage.plan ⟨settings, directory, clock⟩ vars = .ok plan) :
    ∃ plan', stage.plan ⟨settings, directory, clock'⟩ (plan.output vars) = .ok plan' ∧
      plan'.batch settings = plan.batch settings ∧ plan'.correlationId = plan.correlationId := by
  obtain ⟨o, houtline, ho⟩ := bind_eq_ok_iff.1 h
  obtain ⟨rfl, -, -⟩ := Outline.legs_of_plan ho
  obtain ⟨resolved, houtline'⟩ := outline_output clock' houtline
  exact ⟨_, bind_eq_ok_iff.2 ⟨_, houtline', Outline.plan_of_resolved resolved ho⟩, rfl, rfl⟩

/-! ## Lookups -/

namespace AccountLookup

/-- A lookup reports nothing of what it reads. -/
theorem read_output (vars : Variables) (record : Option AccountRecord) :
    AccountLookupRequest.read (output vars record) = AccountLookupRequest.read vars := by
  apply AccountLookupRequest.read_congr
  intro name hname
  apply Dict.find?_insertMany_of_not_mem
  revert name
  cases record <;> simp [report, accountVariables, AccountLookupRequest.names]

theorem run_output {directory : TenantDirectory} {l : Ledger} {vars done : Variables}
    (h : run directory l vars = .ok done) : run directory l done = .ok done := by
  obtain ⟨record, hfind, rfl⟩ := map_eq_ok_iff.1 h
  have hagain : find directory l (output vars record) = .ok record := by
    rw [find, subject, read_output]
    exact hfind
  refine map_eq_ok_iff.2 ⟨record, hagain, ?_⟩
  apply Dict.ext_find?
  intro k
  rw [output, output, Dict.find?_insertMany, Dict.find?_insertMany, ← Option.or_assoc,
    Option.or_self]

end AccountLookup

/-- A job that is given what has been reported for it has the same batch under the same correlation
id, on whichever day it is planned again. A lookup that is given what it has reported reports the
same. -/
theorem TenantDirectory.output_replays (directory : TenantDirectory) :
    (∀ (settings : LedgerSettings) (clock clock' : Clock) (stage : BookingStage) (vars : Variables)
      (plan : Plan), stage.plan ⟨settings, directory, clock⟩ vars = .ok plan →
        ∃ plan', stage.plan ⟨settings, directory, clock'⟩ (plan.output vars) = .ok plan' ∧
          plan'.batch settings = plan.batch settings ∧
          plan'.correlationId = plan.correlationId) ∧
    ∀ (l : Ledger) (vars output : Variables), AccountLookup.run directory l vars = .ok output →
      AccountLookup.run directory l output = .ok output :=
  ⟨fun _ _ clock' _ _ _ h => BookingStage.plan_output clock' h,
    fun _ _ _ h => AccountLookup.run_output h⟩

def Variables.asking : Variables :=
  .ofList [("tenantIdentifier", .text "t"), ("valueFilter", .text "DE89370400440532013000")]

theorem TenantDirectory.output_replays_cancelling :
    (∃ plan plan', BookingStage.disposalDeposit.plan .reverting .cancelling = .ok plan ∧
      plan.outline.date = "20240131" ∧
      BookingStage.disposalDeposit.plan
        ⟨Environment.reverting.settings, Environment.reverting.directory, fun _ => "20240229"⟩
        (plan.output .cancelling) = .ok plan' ∧
      plan'.batch Environment.reverting.settings = plan.batch Environment.reverting.settings ∧
      plan'.correlationId = plan.correlationId) ∧
    ∃ output, AccountLookup.run Environment.reverting.directory .reverting .asking = .ok output ∧
      AccountLookup.run Environment.reverting.directory .reverting output = .ok output := by
  obtain ⟨hplans, hlookups⟩ := output_replays Environment.reverting.directory
  constructor
  · obtain ⟨plan, hplan, -, hdate⟩ := BookingStage.plan_cancelling
    obtain ⟨plan', hplan', hbatch, hid⟩ := hplans _ _ (fun _ => "20240229") _ _ _ hplan
    exact ⟨plan, plan', hplan, hdate, hplan', hbatch, hid⟩
  · have hfound : (AccountLookup.run Environment.reverting.directory .reverting
        .asking).toOption.isSome := by
      decide +kernel
    obtain ⟨output, houtput⟩ := Option.isSome_iff_exists.1 hfound
    have hrun := toOption_eq_some_iff.1 houtput
    exact ⟨output, hrun, hlookups _ _ _ hrun⟩

end PaymentBooking
