import PaymentBooking.Proofs.Job.Failure
import PaymentBooking.Proofs.Job.Lookups

/-! # Variables that a stage does not know

A stage knows the variables of its request and of the context of a booking. All others are carried
along: two jobs of a stage that differ in them only have the same plan and do the same to the
ledger, and what is worked out for the one is worked out for the other.
-/

namespace PaymentBooking

def BookingStage.names : BookingStage → List String
  | .technicalCredit => TechnicalCreditRequest.names
  | .conversionCredit | .conversionRecall | .conversionReturn => ConversionCreditRequest.names
  | .conversionDebit => ConversionDebitRequest.names
  | .revert | .revertWithoutFee => RevertRequest.names
  | .disposalDeposit => DisposalDepositRequest.names

def Stage.names : Stage → List String
  | .booking stage => stage.names
  | .accountLookup => AccountLookupRequest.names

/-- Outcomes of two jobs with these variables to which the same has happened: to the variables of
each the same has been added, or both have failed alike. -/
inductive Outcome.Alike (vars vars' : Variables) :
    Except Decimal.Operation Outcome → Except Decimal.Operation Outcome → Prop
  | completed (resolved : Variables) :
      Alike vars vars' (.ok (.completed (vars.insertMany resolved.toList)))
        (.ok (.completed (vars'.insertMany resolved.toList)))
  | failed (signal : String) (kind : FailureKind) (reason : String) :
      Alike vars vars' (.ok (.failed signal kind reason)) (.ok (.failed signal kind reason))
  | stopped (operation : Decimal.Operation) : Alike vars vars' (.error operation) (.error operation)

section

variable {env : Environment} {l : Ledger} {vars vars' : Variables}

theorem BookingStage.outline_congr {stage : BookingStage}
    (h : Dict.AgreeOn stage.names vars vars') :
    stage.outline env vars = stage.outline env vars' := by
  cases stage with
  | technicalCredit => rw [outline, outline, TechnicalCreditRequest.read_congr h]
  | conversionCredit | conversionRecall | conversionReturn =>
    rw [outline, outline, ConversionCreditRequest.read_congr h]
  | conversionDebit => rw [outline, outline, ConversionDebitRequest.read_congr h]
  | revert | revertWithoutFee => rw [outline, outline, RevertRequest.read_congr h]
  | disposalDeposit => rw [outline, outline, DisposalDepositRequest.read_congr h]

theorem Stage.plan_congr {stage : Stage} (h : Dict.AgreeOn stage.names vars vars') :
    stage.plan env vars = stage.plan env vars' := by
  cases stage with
  | booking stage =>
    rw [plan, plan, BookingStage.plan, BookingStage.plan, BookingStage.outline_congr h]
  | accountLookup => rfl

theorem AccountLookup.find_congr {directory : TenantDirectory}
    (h : Dict.AgreeOn AccountLookupRequest.names vars vars') :
    find directory l vars = find directory l vars' := by
  rw [find, find, subject, subject, AccountLookupRequest.read_congr h]

end

namespace Worker

variable {env : Environment} {l : Ledger} {job job' : Job}

theorem handle_booking_congr {stage : BookingStage} (htype : job.type = stage.jobType)
    (htype' : job'.type = stage.jobType)
    (hplan : stage.plan env job.vars = stage.plan env job'.vars) :
    (handle env l job).1 = (handle env l job').1 ∧
      Outcome.Alike job.vars job'.vars (handle env l job).2 (handle env l job').2 := by
  cases hplanned : stage.plan env job.vars with
  | error e =>
    rw [handle_of_unplanned htype hplanned,
      handle_of_unplanned htype' (hplan.symm.trans hplanned)]
    exact ⟨rfl, .failed _ _ _⟩
  | ok plan =>
    rw [handle_of_plan htype hplanned, handle_of_plan htype' (hplan.symm.trans hplanned),
      Plan.submit, Plan.submit]
    -- The batch is the same, so the ledger answers both in the same way.
    rcases l.submit (plan.batch env.settings).tenant (plan.batch env.settings).items with
      ⟨l', (e | operation) | receipt⟩
    · exact ⟨rfl, .failed _ _ _⟩
    · exact ⟨rfl, .stopped operation⟩
    · exact ⟨rfl, .completed plan.outline.resolved⟩

theorem handle_lookup_congr (htype : job.type = Stage.accountLookup.jobType)
    (htype' : job'.type = Stage.accountLookup.jobType)
    (hfind : AccountLookup.find env.directory l job.vars =
      AccountLookup.find env.directory l job'.vars) :
    (handle env l job).1 = (handle env l job').1 ∧
      Outcome.Alike job.vars job'.vars (handle env l job).2 (handle env l job').2 := by
  cases hfound : AccountLookup.find env.directory l job.vars with
  | error e =>
    rw [handle_of_not_found htype hfound, handle_of_not_found htype' (hfind.symm.trans hfound)]
    exact ⟨rfl, .failed _ _ _⟩
  | ok record =>
    rw [handle_of_found htype hfound, handle_of_found htype' (hfind.symm.trans hfound),
      AccountLookup.output, AccountLookup.output, ← Dict.insertMany_toList_ofList job.vars,
      ← Dict.insertMany_toList_ofList job'.vars]
    exact ⟨rfl, .completed _⟩

/-- Two jobs of a stage whose variables agree in those that the stage knows have the same plan,
leave the same ledger and come to the same: they fail alike, or to the variables of each the same
is added, in the place of what was there. -/
theorem handle_alike (env : Environment) (l : Ledger) {stage : Stage}
    (htype : job.type = stage.jobType) (htype' : job'.type = stage.jobType)
    (h : Dict.AgreeOn stage.names job.vars job'.vars) :
    stage.plan env job.vars = stage.plan env job'.vars ∧
      (handle env l job).1 = (handle env l job').1 ∧
      Outcome.Alike job.vars job'.vars (handle env l job).2 (handle env l job').2 := by
  refine ⟨Stage.plan_congr h, ?_⟩
  cases stage with
  | booking stage => exact handle_booking_congr htype htype' (Stage.plan_congr h)
  | accountLookup => exact handle_lookup_congr htype htype' (AccountLookup.find_congr h)

end Worker

/-- The variables of a lookup that has been answered before, with some that only bookings know. -/
def Variables.askingAgain : Variables :=
  Variables.asking.insertMany
    [("accountAmsStatus", .text "READY_TO_RECEIVE_MONEY"), ("amount", .null),
     ("internalCorrelationId", .array [])]

theorem Worker.handle_alike_asking :
    ∃ resolved : Variables,
      (handle .reverting (Ledger.after Command.registering) (.lookup .asking)).2 =
        .ok (.completed (Variables.asking.insertMany resolved.toList)) ∧
      (handle .reverting (Ledger.after Command.registering) (.lookup .askingAgain)).2 =
        .ok (.completed (Variables.askingAgain.insertMany resolved.toList)) := by
  have htype : ∀ vars, (Job.lookup vars).type = Stage.accountLookup.jobType := fun _ => rfl
  have hagree : Dict.AgreeOn Stage.accountLookup.names Variables.asking Variables.askingAgain :=
    fun name hname => (Dict.find?_insertMany_of_not_mem (by revert name; decide) _).symm
  have hcompleted : (handle .reverting (Ledger.after Command.registering)
      (.lookup .asking)).2.toOption.any fun o => o.kind? = none := by
    decide +kernel
  have halike := (handle_alike .reverting (Ledger.after Command.registering) (htype .asking)
    (htype .askingAgain) hagree).2.2
  generalize (handle .reverting (Ledger.after Command.registering) (.lookup .asking)).2 = x,
    (handle .reverting (Ledger.after Command.registering) (.lookup .askingAgain)).2 = y
      at halike hcompleted ⊢
  cases halike with
  | completed resolved => exact ⟨resolved, rfl, rfl⟩
  | failed signal kind reason => cases hcompleted
  | stopped operation => cases hcompleted

end PaymentBooking
