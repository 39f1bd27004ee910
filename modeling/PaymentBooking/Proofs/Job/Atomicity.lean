import PaymentBooking.Job.Worker
import PaymentBooking.Proofs.Ledger.Step

/-! # A job takes effect whole or not at all

A job that is left to a person, for whatever reason, and a job that is stopped by a balance beyond
all decimals leave the ledger as it was. A booking that is completed has submitted the batch of its
plan once, with every item of it. A lookup leaves the ledger alone.
-/

namespace PaymentBooking

namespace Stage

theorem ofJobType?_eq_some_iff {jobType : String} {stage : Stage} :
    ofJobType? jobType = some stage ↔ stage.jobType = jobType := by
  constructor
  · intro h
    simpa using List.find?_some h
  · rintro rfl
    rcases stage with (_ | _ | _ | _ | _ | _ | _ | _) | _ <;> decide

end Stage

/-! ## Batches -/

/-- A batch that is refused at an item has had all items before it worked off on a copy of the
tenant's book. -/
theorem Ledger.submit_eq_refused {l l' : Ledger} {tenant : String} {items : List BatchItem}
    {i : Nat} {refusal : Refusal}
    (h : l.submit tenant items = (l', .error (.error (.refused i refusal)))) :
    ∃ b s item, l.books.find? tenant = some b ∧
      (Submission.begin l b).items 0 (items.take i) = (s, none) ∧ s.ledger = l ∧
      s.copy.receipt.length = i ∧ items[i]? = some item ∧
      s.copy.step item = .error (.refused refusal) := by
  obtain ⟨-, ⟨-, hunknown⟩ | ⟨b, hbook, hrun⟩⟩ := submit_eq_error_iff.1 h
  · cases hunknown
  · obtain ⟨before, item, rest, p, fault, rfl, hbefore, hstep, hfailure⟩ :=
      Progress.run_eq_error hrun
    cases fault with
    | overflow operation => cases hfailure
    | refused reason =>
      rw [Progress.failure, Nat.zero_add] at hfailure
      cases hfailure
      have hcopy := Submission.items_of_run (s := Submission.begin l b) hbefore
      refine ⟨b, { Submission.begin l b with copy := p }, item, hbook, ?_, rfl, ?_, ?_, hstep⟩
      · rw [List.take_left]
        exact hcopy
      · simpa using Progress.length_receipt_of_run hbefore
      · rw [List.getElem?_append_right (Nat.le_refl _), Nat.sub_self]
        rfl

namespace Plan

variable {plan : Plan} {env : Environment} {l l' : Ledger} {vars output : Variables}

/-- A plan has been submitted if its batch has been accepted; the receipt is not reported. -/
theorem submit_eq_ok_iff :
    plan.submit env l vars = (l', .ok output) ↔
      (∃ receipt, l.submit (plan.batch env.settings).tenant (plan.batch env.settings).items =
        (l', .ok receipt)) ∧ output = plan.output vars := by
  rw [submit]
  rcases l.submit (plan.batch env.settings).tenant (plan.batch env.settings).items with
    ⟨r, failure | receipt⟩
  · simp [Except.map]
  · simp [Except.map, eq_comm (a := output)]

theorem submit_eq_error_iff {failure : Failure} :
    plan.submit env l vars = (l', .error failure) ↔
      l.submit (plan.batch env.settings).tenant (plan.batch env.settings).items =
        (l', .error failure) := by
  rw [submit]
  rcases l.submit (plan.batch env.settings).tenant (plan.batch env.settings).items with
    ⟨r, failure | receipt⟩ <;> simp [Except.map]

end Plan

namespace Worker

variable {env : Environment} {l l' : Ledger} {job : Job} {vars output : Variables}

/-! ## Stages -/

theorem perform_of_plan {stage : BookingStage} {plan : Plan}
    (hplan : stage.plan env vars = .ok plan) :
    perform env l vars (.booking stage) = plan.submit env l vars := by
  change (Stage.booking stage).book env l vars = _
  rw [Stage.book, Stage.plan, hplan]

theorem perform_of_plan_eq_error {stage : BookingStage} {e : Error}
    (hplan : stage.plan env vars = .error e) :
    perform env l vars (.booking stage) = (l, .error (.error e)) := by
  change (Stage.booking stage).book env l vars = _
  rw [Stage.book, Stage.plan, hplan]

theorem perform_booking_eq_ok_iff {stage : BookingStage} :
    perform env l vars (.booking stage) = (l', .ok output) ↔
      ∃ plan, stage.plan env vars = .ok plan ∧ plan.submit env l vars = (l', .ok output) := by
  cases hplan : stage.plan env vars with
  | error e => simp [perform_of_plan_eq_error hplan]
  | ok plan => simp [perform_of_plan hplan]

/-- What fails has not changed the ledger: a batch is worked off on a copy. -/
theorem ledger_of_perform_eq_error {stage : Stage} {failure : Failure}
    (h : perform env l vars stage = (l', .error failure)) : l' = l := by
  cases stage with
  | accountLookup => exact (congrArg Prod.fst h).symm
  | booking stage =>
    cases hplan : stage.plan env vars with
    | error e =>
      rw [perform_of_plan_eq_error hplan] at h
      exact (congrArg Prod.fst h).symm
    | ok plan =>
      rw [perform_of_plan hplan, Plan.submit_eq_error_iff] at h
      exact (Ledger.submit_eq_error_iff.1 h).1

/-! ## Jobs -/

theorem handle_of_stage {stage : Stage} (h : stage.jobType = job.type) :
    handle env l job = ((perform env l job.vars stage).1,
      Outcome.ofResult stage.failureSignal (perform env l job.vars stage).2) := by
  rw [handle, Stage.ofJobType?_eq_some_iff.2 h]

theorem handle_of_plan {stage : BookingStage} {plan : Plan} (htype : job.type = stage.jobType)
    (hplan : stage.plan env job.vars = .ok plan) :
    handle env l job = ((plan.submit env l job.vars).1,
      Outcome.ofResult stage.failureSignal (plan.submit env l job.vars).2) := by
  have hstage : (Stage.booking stage).jobType = job.type := htype.symm
  rw [handle_of_stage hstage, perform_of_plan hplan]
  rfl

theorem ofResult_eq_completed_iff {signal : String} {x : Except Failure Variables} :
    Outcome.ofResult signal x = .ok (.completed output) ↔ x = .ok output := by
  rcases x with (e | operation) | done <;> simp [Outcome.ofResult, Outcome.ofError]

theorem handle_eq_completed_iff {stage : BookingStage} (htype : job.type = stage.jobType) :
    handle env l job = (l', .ok (.completed output)) ↔
      ∃ plan, stage.plan env job.vars = .ok plan ∧
        plan.submit env l job.vars = (l', .ok output) := by
  have hstage : (Stage.booking stage).jobType = job.type := htype.symm
  rw [handle_of_stage hstage, ← perform_booking_eq_ok_iff, Prod.ext_iff, Prod.ext_iff,
    ofResult_eq_completed_iff]

/-- All that can become of a job: an error or an overflow, which leave the ledger alone, or the
work of its stage. -/
theorem handle_cases (env : Environment) (l : Ledger) (job : Job) :
    (∃ signal e, handle env l job = (l, .ok (.ofError signal e))) ∨
      (∃ operation, handle env l job = (l, .error operation)) ∨
      ∃ stage l' output, stage.jobType = job.type ∧
        perform env l job.vars stage = (l', .ok output) ∧
        handle env l job = (l', .ok (.completed output)) := by
  cases hstage : Stage.ofJobType? job.type with
  | none => exact .inl ⟨_, _, by rw [handle, hstage]⟩
  | some stage =>
    have htype := Stage.ofJobType?_eq_some_iff.1 hstage
    rw [handle_of_stage htype]
    rcases hperform : perform env l job.vars stage with ⟨l', (e | operation) | output⟩
    · obtain rfl := ledger_of_perform_eq_error hperform
      exact .inl ⟨_, e, rfl⟩
    · obtain rfl := ledger_of_perform_eq_error hperform
      exact .inr (.inl ⟨operation, rfl⟩)
    · exact .inr (.inr ⟨stage, l', output, htype, hperform, rfl⟩)

/-- A job that is not completed leaves the ledger as it was, whether it is left to a person or
stopped by an overflow. A booking that is completed has had the batch of its plan accepted, all
items of it and once, and the ledger is what that made of it. A lookup never changes the ledger.
When the batch of a booking is refused at an item, those before it have all been worked off, but on
a copy, and the ledger shows nothing of them. -/
theorem handle_atomic (env : Environment) (l : Ledger) (job : Job) :
    (∀ l' signal kind reason, handle env l job = (l', .ok (.failed signal kind reason)) → l' = l) ∧
    (∀ l' operation, handle env l job = (l', .error operation) → l' = l) ∧
    (∀ l' output (stage : BookingStage), job.type = stage.jobType →
      handle env l job = (l', .ok (.completed output)) →
        ∃ plan receipt, stage.plan env job.vars = .ok plan ∧
          l.submit (plan.batch env.settings).tenant (plan.batch env.settings).items =
            (l', .ok receipt) ∧
          receipt.length = (plan.batch env.settings).items.length ∧
          output = plan.output job.vars) ∧
    (job.type = Stage.accountLookup.jobType → (handle env l job).1 = l) ∧
    (∀ (stage : BookingStage) plan l' i refusal, job.type = stage.jobType →
      stage.plan env job.vars = .ok plan →
      l.submit (plan.batch env.settings).tenant (plan.batch env.settings).items =
          (l', .error (.error (.refused i refusal))) →
        handle env l job = (l, .ok (.ofError stage.failureSignal (.refused i refusal))) ∧
        ∃ b s item, l.books.find? (plan.batch env.settings).tenant = some b ∧
          (Submission.begin l b).items 0 ((plan.batch env.settings).items.take i) = (s, none) ∧
          s.ledger = l ∧ s.copy.receipt.length = i ∧
          (plan.batch env.settings).items[i]? = some item ∧
          s.copy.step item = .error (.refused refusal)) := by
  refine ⟨?_, ?_, ?_, ?_, ?_⟩
  · intro l' signal kind reason hfailed
    rcases handle_cases env l job with
      ⟨_, _, h⟩ | ⟨operation, h⟩ | ⟨stage, r, done, -, -, h⟩ <;> rw [h] at hfailed <;>
      cases hfailed
    rfl
  · intro l' operation hstopped
    rcases handle_cases env l job with
      ⟨_, _, h⟩ | ⟨found, h⟩ | ⟨stage, r, done, -, -, h⟩ <;> rw [h] at hstopped <;>
      cases hstopped
    rfl
  · intro l' output stage htype hcompleted
    obtain ⟨plan, hplan, hsubmit⟩ := (handle_eq_completed_iff htype).1 hcompleted
    obtain ⟨⟨receipt, haccepted⟩, houtput⟩ := Plan.submit_eq_ok_iff.1 hsubmit
    exact ⟨plan, receipt, hplan, haccepted, Ledger.length_receipt_of_submit haccepted, houtput⟩
  · intro htype
    rw [handle_of_stage htype.symm]
    rfl
  · intro stage plan l' i refusal htype hplan hrefused
    obtain rfl := (Ledger.submit_eq_error_iff.1 hrefused).1
    have hsubmit : plan.submit env l' job.vars = (l', .error (.error (.refused i refusal))) :=
      Plan.submit_eq_error_iff.2 hrefused
    refine ⟨?_, Ledger.submit_eq_refused hrefused⟩
    rw [handle_of_plan htype hplan, hsubmit]
    rfl

end Worker

end PaymentBooking
