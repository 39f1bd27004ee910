import PaymentBooking.Proofs.Booking.Failure
import PaymentBooking.Proofs.Job.Outcomes

/-! # What the kind of a failure says

A job that is left to a person is reported with a kind, and the kind tells how far the job has come.
A booking that could be planned fails on the ledger only, and one that could not fails for what is
not configured or for what cannot be read, before the ledger is asked. A job for no stage has not
even been read.
-/

namespace PaymentBooking

variable {env : Environment} {l : Ledger} {job : Job} {stage : BookingStage}

def Job.FailsAs (env : Environment) (l : Ledger) (job : Job) (signal : String)
    (kind : FailureKind) : Prop :=
  ∃ reason, (Worker.handle env l job).2 = .ok (.failed signal kind reason)

/-- A booking can be planned, and the ledger refuses its batch. A batch that overflows is not
refused. -/
def BookingStage.Refused (env : Environment) (l : Ledger) (vars : Variables)
    (stage : BookingStage) : Prop :=
  ∃ plan e, stage.plan env vars = .ok plan ∧
    (l.submit (plan.batch env.settings).tenant (plan.batch env.settings).items).2 =
      .error (.error e)

theorem Ledger.kind_of_submit {l' : Ledger} {tenant : String} {items : List BatchItem} {e : Error}
    (h : l.submit tenant items = (l', .error (.error e))) : e.kind = .ledger := by
  obtain ⟨-, ⟨-, hunknown⟩ | ⟨b, -, hrun⟩⟩ := submit_eq_error_iff.1 h
  · cases hunknown
    rfl
  · obtain ⟨before, item, rest, p, fault, -, -, -, hfailure⟩ := Progress.run_eq_error hrun
    cases fault with
    | refused reason =>
      cases hfailure
      rfl
    | overflow operation => cases hfailure

namespace Worker

theorem handle_of_unplanned (htype : job.type = stage.jobType) {e : Error}
    (hplan : stage.plan env job.vars = .error e) :
    handle env l job = (l, .ok (.ofError stage.failureSignal e)) := by
  have hstage : (Stage.booking stage).jobType = job.type := htype.symm
  rw [handle_of_stage hstage, perform_of_plan_eq_error hplan]
  rfl

/-- A booking is left to a person with the signal of its stage, for an error of planning or for a
refusal of its batch. -/
theorem failsAs_iff (htype : job.type = stage.jobType) {signal : String} {kind : FailureKind} :
    job.FailsAs env l signal kind ↔ signal = stage.failureSignal ∧
      ((∃ e, stage.plan env job.vars = .error e ∧ e.kind = kind) ∨
        kind = .ledger ∧ stage.Refused env l job.vars) := by
  rw [Job.FailsAs]
  cases hplan : stage.plan env job.vars with
  | error e =>
    rw [handle_of_unplanned htype hplan]
    simp [Outcome.ofError, BookingStage.Refused, hplan, eq_comm]
  | ok plan =>
    rw [handle_of_plan htype hplan]
    rcases hsubmit : l.submit (plan.batch env.settings).tenant (plan.batch env.settings).items with
      ⟨l', (e | operation) | receipt⟩
    · have hkind := Ledger.kind_of_submit hsubmit
      rw [Plan.submit_eq_error_iff.2 hsubmit]
      simp [Outcome.ofResult, Outcome.ofError, BookingStage.Refused, hplan, hsubmit, hkind, eq_comm]
    · rw [Plan.submit_eq_error_iff.2 hsubmit]
      simp [Outcome.ofResult, BookingStage.Refused, hplan, hsubmit]
    · rw [Plan.submit_eq_ok_iff.2 ⟨⟨receipt, hsubmit⟩, rfl⟩]
      simp [Outcome.ofResult, BookingStage.Refused, hplan, hsubmit]

theorem failsAs_iff_of_ne_ledger (htype : job.type = stage.jobType) {kind : FailureKind}
    (hkind : kind ≠ .ledger) :
    job.FailsAs env l stage.failureSignal kind ↔
      ∃ e, stage.plan env job.vars = .error e ∧ e.kind = kind := by
  rw [failsAs_iff htype]
  simp [hkind]

/-- The kind of a failure tells the phase of a booking that failed, and its signal is always that of
the stage: the ledger has refused the batch of a plan, or there is no plan because a tenant, a
payment type or a technical account is not configured, or because of anything else. A job for no
stage fails as one that cannot be read, whatever its variables and the ledger are. -/
theorem kind_of_handle {text : String} {s : Settings} (h : Settings.parse text = .ok s)
    (clock : Clock) (l : Ledger) (job : Job) :
    (∀ stage : BookingStage, job.type = stage.jobType →
      (∀ signal kind, job.FailsAs (s.environment clock) l signal kind →
        signal = stage.failureSignal) ∧
      (job.FailsAs (s.environment clock) l stage.failureSignal .ledger ↔
        stage.Refused (s.environment clock) l job.vars) ∧
      (job.FailsAs (s.environment clock) l stage.failureSignal .configuration ↔
        ∃ e, stage.plan (s.environment clock) job.vars = .error e ∧
          stage.Unmapped s.directory job.vars e) ∧
      (job.FailsAs (s.environment clock) l stage.failureSignal .decode ↔
        ∃ e, stage.plan (s.environment clock) job.vars = .error e ∧
          ¬stage.Unmapped s.directory job.vars e)) ∧
    ((∀ stage : Stage, job.type ≠ stage.jobType) →
      ∀ env l vars, handle env l ⟨job.key, job.type, vars⟩ =
        (l, .ok (.failed unsupportedSignal .decode ("Unknown stage: " ++ job.type)))) := by
  constructor
  · intro stage htype
    have hpattern : ∃ pattern, (s.environment clock).settings.datePattern = .ok pattern :=
      (Settings.ledger_of_parse h).2
    have hstops : ∀ e, stage.plan (s.environment clock) job.vars = .error e →
        stage.Stops s.directory job.vars e :=
      BookingStage.stops_plan hpattern
    refine ⟨fun signal kind hfails => ((failsAs_iff htype).1 hfails).1, ?_, ?_, ?_⟩
    · rw [failsAs_iff htype]
      constructor
      · rintro ⟨-, ⟨e, hplan, hkind⟩ | ⟨-, hrefused⟩⟩
        · exact absurd hkind (hstops e hplan).kind_ne_ledger
        · exact hrefused
      · intro hrefused
        exact ⟨rfl, .inr ⟨rfl, hrefused⟩⟩
    · rw [failsAs_iff_of_ne_ledger htype (by decide)]
      exact exists_congr fun e => and_congr_right fun hplan =>
        (hstops e hplan).kind_eq_configuration_iff
    · rw [failsAs_iff_of_ne_ledger htype (by decide)]
      exact exists_congr fun e => and_congr_right fun hplan => (hstops e hplan).kind_eq_decode_iff
  · intro hnone env l vars
    have hstage : Stage.ofJobType? job.type = none := by
      rw [Option.eq_none_iff_forall_ne_some]
      intro stage hstage
      exact hnone stage (Stage.ofJobType?_eq_some_iff.1 hstage).symm
    rw [handle, hstage]
    rfl

end Worker

def Outcome.kind? : Outcome → Option FailureKind
  | .completed _ => none
  | .failed _ kind _ => some kind

theorem Job.exists_failsAs {kind : FailureKind}
    (h : (Worker.handle env l job).2.toOption.bind Outcome.kind? = some kind) :
    ∃ signal, job.FailsAs env l signal kind := by
  obtain ⟨outcome, houtcome, hkind⟩ := Option.bind_eq_some_iff.1 h
  cases outcome with
  | completed vars => cases hkind
  | failed signal kind reason =>
    cases hkind
    exact ⟨signal, reason, toOption_eq_some_iff.1 houtcome⟩

/-- Under one document and on an empty ledger, a job without a fee is refused, its like for another
tenant finds that tenant unmapped, and a job without variables cannot be read. -/
theorem Worker.kind_of_handle_withoutFee :
    ∃ s, Settings.parse Settings.withoutFees = .ok s ∧
      BookingStage.revertWithoutFee.Refused (s.environment fun _ => "20240131") .empty
        .withoutFee ∧
      (∃ e, BookingStage.revertWithoutFee.plan (s.environment fun _ => "20240131")
          (Variables.withoutFee.insert "tenantIdentifier" (.text "u")) = .error e ∧
        BookingStage.revertWithoutFee.Unmapped s.directory
          (Variables.withoutFee.insert "tenantIdentifier" (.text "u")) e) ∧
      (∃ e, BookingStage.revertWithoutFee.plan (s.environment fun _ => "20240131") .empty =
          .error e ∧
        ¬BookingStage.revertWithoutFee.Unmapped s.directory .empty e) ∧
      handle (s.environment fun _ => "20240131") .empty ⟨1, "revert", .withoutFee⟩ =
        (.empty, .ok (.failed "Error_JobTypeNotSupported" .decode "Unknown stage: revert")) := by
  have hkinds : (Settings.parse Settings.withoutFees).toOption.any fun s =>
      [Variables.withoutFee, Variables.withoutFee.insert "tenantIdentifier" (.text "u"), .empty].map
        (fun vars => (handle (s.environment fun _ => "20240131") .empty
          ⟨1, BookingStage.revertWithoutFee.jobType, vars⟩).2.toOption.bind Outcome.kind?) =
      [some .ledger, some .configuration, some .decode] := by
    decide +kernel
  obtain ⟨s, hs, hkinds⟩ := exists_of_any hkinds
  have hkinds := of_decide_eq_true hkinds
  simp only [List.map_cons, List.map_nil, List.cons.injEq, and_true] at hkinds
  obtain ⟨hledger, hconfiguration, hdecode⟩ := hkinds
  have hkind := fun vars => (kind_of_handle hs (fun _ => "20240131") .empty
    ⟨1, BookingStage.revertWithoutFee.jobType, vars⟩).1 .revertWithoutFee rfl
  refine ⟨s, hs, ?_, ?_, ?_, ?_⟩
  · obtain ⟨signal, hfails⟩ := Job.exists_failsAs hledger
    obtain ⟨hsignal, hrefused, -, -⟩ := hkind .withoutFee
    exact hrefused.1 (hsignal _ _ hfails ▸ hfails)
  · obtain ⟨signal, hfails⟩ := Job.exists_failsAs hconfiguration
    obtain ⟨hsignal, -, hunmapped, -⟩ :=
      hkind (Variables.withoutFee.insert "tenantIdentifier" (.text "u"))
    exact hunmapped.1 (hsignal _ _ hfails ▸ hfails)
  · obtain ⟨signal, hfails⟩ := Job.exists_failsAs hdecode
    obtain ⟨hsignal, -, -, hread⟩ := hkind .empty
    exact hread.1 (hsignal _ _ hfails ▸ hfails)
  · have hnone : ∀ stage : Stage, "revert" ≠ stage.jobType := by
      rintro ((_ | _ | _ | _ | _ | _ | _ | _) | _) <;> decide
    have hunsupported := (kind_of_handle hs (fun _ => "20240131") .empty
      ⟨1, "revert", .withoutFee⟩).2 hnone (s.environment fun _ => "20240131") .empty .withoutFee
    have hreason : "Unknown stage: " ++ "revert" = "Unknown stage: revert" := by decide
    rwa [hreason] at hunsupported

end PaymentBooking
