import PaymentBooking.Proofs.Job.Atomicity
import PaymentBooking.Proofs.Ledger.Overflow
import PaymentBooking.Settings.Document

/-! # Which jobs get an outcome

A job is completed or left to a person, unless its batch deposits more on an account than there is
room for. Such a job stops without an outcome. The ledger shows nothing of it, so that other jobs
fare as if it had not been there.
-/

namespace PaymentBooking

variable {env : Environment} {l l' : Ledger} {operation : Decimal.Operation}

def Settings.environment (s : Settings) (clock : Clock) : Environment :=
  ⟨s.ledger, s.directory, clock⟩

/-- The job can be planned, and the batch of its plan overflows. -/
def Job.Overflows (env : Environment) (l : Ledger) (job : Job) : Prop :=
  ∃ (stage : BookingStage) (plan : Plan), job.type = stage.jobType ∧
    stage.plan env job.vars = .ok plan ∧
    l.Overflows (plan.batch env.settings).tenant (plan.batch env.settings).items

theorem Plan.submit_eq_overflow_iff {plan : Plan} {vars : Variables} :
    plan.submit env l vars = (l', .error (.overflow operation)) ↔
      l' = l ∧ operation = .addition ∧
        l.Overflows (plan.batch env.settings).tenant (plan.batch env.settings).items :=
  submit_eq_error_iff.trans Ledger.submit_eq_overflow_iff

namespace Worker

theorem perform_booking_eq_overflow_iff {stage : BookingStage} {vars : Variables} :
    perform env l vars (.booking stage) = (l', .error (.overflow operation)) ↔
      l' = l ∧ operation = .addition ∧ ∃ plan, stage.plan env vars = .ok plan ∧
        l.Overflows (plan.batch env.settings).tenant (plan.batch env.settings).items := by
  cases hplan : stage.plan env vars with
  | error e => simp [perform_of_plan_eq_error hplan]
  | ok plan => simp [perform_of_plan hplan, Plan.submit_eq_overflow_iff]

theorem perform_accountLookup_ne_overflow (vars : Variables) :
    perform env l vars .accountLookup ≠ (l', .error (.overflow operation)) := by
  rw [perform]
  cases AccountLookup.run env.directory l vars <;> simp [Except.mapError]

theorem ofResult_eq_error_iff {signal : String} {x : Except Failure Variables} :
    Outcome.ofResult signal x = .error operation ↔ x = .error (.overflow operation) := by
  rcases x with (e | found) | done <;> simp [Outcome.ofResult]

/-- A job stops without an outcome exactly if it overflows. -/
theorem handle_eq_error_iff {job : Job} :
    handle env l job = (l', .error operation) ↔
      l' = l ∧ operation = .addition ∧ job.Overflows env l := by
  have hstops {stage : Stage} (htype : stage.jobType = job.type) :
      handle env l job = (l', .error operation) ↔
        perform env l job.vars stage = (l', .error (.overflow operation)) := by
    rw [handle_of_stage htype, Prod.ext_iff, Prod.ext_iff, ofResult_eq_error_iff]
  constructor
  · intro h
    cases hstage : Stage.ofJobType? job.type with
    | none =>
      rw [handle, hstage] at h
      cases h
    | some stage =>
      have htype := Stage.ofJobType?_eq_some_iff.1 hstage
      have hperform := (hstops htype).1 h
      cases stage with
      | accountLookup => exact absurd hperform (perform_accountLookup_ne_overflow job.vars)
      | booking stage =>
        obtain ⟨hsame, hoperation, plan, hplan⟩ := perform_booking_eq_overflow_iff.1 hperform
        exact ⟨hsame, hoperation, stage, plan, htype.symm, hplan⟩
  · rintro ⟨hsame, hoperation, stage, plan, htype, hplan⟩
    have hstage : (Stage.booking stage).jobType = job.type := htype.symm
    exact (hstops hstage).2
      (perform_booking_eq_overflow_iff.2 ⟨hsame, hoperation, plan, hplan⟩)

theorem handle_eq_ok_iff {job : Job} :
    (∃ outcome, (handle env l job).2 = .ok outcome) ↔ ¬job.Overflows env l := by
  constructor
  · rintro ⟨outcome, houtcome⟩ hoverflows
    rw [handle_eq_error_iff.2 ⟨rfl, rfl, hoverflows⟩] at houtcome
    cases houtcome
  · intro hroom
    rcases hhandle : handle env l job with ⟨l', operation | outcome⟩
    · exact absurd (handle_eq_error_iff.1 hhandle).2.2 hroom
    · exact ⟨outcome, rfl⟩

theorem handleAll_append (env : Environment) (l : Ledger) (jobs jobs' : List Job) :
    handleAll env l (jobs ++ jobs') =
      ((handleAll env (handleAll env l jobs).1 jobs').1,
        (handleAll env l jobs).2 ++ (handleAll env (handleAll env l jobs).1 jobs').2) := by
  induction jobs generalizing l with
  | nil => rfl
  | cons job jobs ih => simp only [List.cons_append, handleAll, ih]

theorem map_fst_handleAll (env : Environment) (l : Ledger) (jobs : List Job) :
    (handleAll env l jobs).2.map Prod.fst = jobs := by
  induction jobs generalizing l with
  | nil => rfl
  | cons job jobs ih => rw [handleAll, List.map_cons, ih]

theorem length_handleAll (env : Environment) (l : Ledger) (jobs : List Job) :
    (handleAll env l jobs).2.length = jobs.length := by
  rw [← List.length_map Prod.fst, map_fst_handleAll]

/-- A job gets an outcome exactly if it does not overflow, and one that overflows leaves the ledger
as it was. Wherever it comes in the order in which jobs are handled, the others get the outcomes
that they get without it. -/
theorem outcomes_of_jobs (env : Environment) (l : Ledger) (job : Job) :
    ((∃ outcome, (handle env l job).2 = .ok outcome) ↔ ¬job.Overflows env l) ∧
    (handle env l job = (l, .error .addition) ↔ job.Overflows env l) ∧
    ∀ before after, job.Overflows env (handleAll env l before).1 →
      (handleAll env l (before ++ job :: after)).1 = (handleAll env l (before ++ after)).1 ∧
      ∃ earlier later, earlier.length = before.length ∧
        (handleAll env l (before ++ after)).2 = earlier ++ later ∧
        (handleAll env l (before ++ job :: after)).2 =
          earlier ++ (job, .error .addition) :: later := by
  refine ⟨handle_eq_ok_iff, ?_, fun before after hoverflows => ?_⟩
  · rw [handle_eq_error_iff]
    simp
  · have hstopped := handle_eq_error_iff.2 ⟨rfl, rfl, hoverflows⟩
    rw [handleAll_append, handleAll_append, handleAll, hstopped]
    exact ⟨rfl, _, _, length_handleAll env l before, rfl, rfl⟩

end Worker

/-- A document with an account that holds the greatest decimal. -/
def Settings.brimming : String :=
  "[tenants.t.payment_type_ids]\n" ++
  "\"S.bookCreditedAmountToConversionAccount.ConversionAccount.DepositTransactionAmount\" = 1\n" ++
  "[[accounts]]\ntenant = \"t\"\nid = 11\nbalance = \"79228162514264337593543950335\"\n"

/-- The job of a payment on that account. -/
def Job.crediting : Job where
  key := 1
  type := "bookCreditedAmountToConversionAccount"
  vars := .ofList
    [("tenantIdentifier", .text "t"), ("paymentScheme", .text "S"),
     ("internalCorrelationId", .text "id"), ("transactionDate", .text "20240131"),
     ("amount", .text "1"), ("conversionAccountAmsId", .ofInt64 11),
     ("originalPacs008", .text "\x7b\"FIToFICstmrCdtTrf\":\x7b\"CdtTrfTxInf\":[\x7b\x7d]\x7d\x7d")]

/-- Not every job gets an outcome, whatever came before it. -/
theorem Worker.not_all_jobs_have_outcomes :
    ¬∀ text settings clock jobs job, Settings.parse text = .ok settings →
      ∃ outcome, (handle (settings.environment clock)
        (handleAll (settings.environment clock) settings.seed jobs).1 job).2 = .ok outcome := by
  intro hall
  have hparsed : (Settings.parse Settings.brimming).toOption.any fun settings =>
      (handle (settings.environment fun _ => "") settings.seed .crediting).2.toOption.isNone := by
    decide +kernel
  obtain ⟨settings, hsettings, hnone⟩ := (Option.any_eq_true _ _).1 hparsed
  obtain ⟨outcome, houtcome⟩ := hall Settings.brimming settings (fun _ => "") [] .crediting
    (toOption_eq_some_iff.1 hsettings)
  rw [handleAll] at houtcome
  rw [houtcome] at hnone
  cases hnone

end PaymentBooking
