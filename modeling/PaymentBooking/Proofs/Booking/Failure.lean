import PaymentBooking.Proofs.Booking.Planning

/-! # Why a booking cannot be planned

Planning fails in two ways. Something is not configured: the tenant, a technical account, or the
payment type of a movement. Or the job or a message in it cannot be read, or lacks something. The
error that is reported tells which, and in the first case it names what is missing.
-/

namespace PaymentBooking

open Reading.RecordReader

/-- What a stage looks up for a job and does not find in the directory, by the error that names
it. -/
inductive BookingStage.Unmapped (directory : TenantDirectory) (vars : Variables)
    (stage : BookingStage) : Error → Prop
  | tenant {name : String} (hname : vars.text? "tenantIdentifier" = some name)
      (hnone : directory.paymentTypes.find? name = none) :
      Unmapped directory vars stage (.tenantNotConfigured name)
  | technicalAccount {name scheme case : String} (hstage : stage = .technicalCredit)
      (hname : vars.text? "tenantIdentifier" = some name)
      (hscheme : vars.text? "paymentScheme" = some scheme)
      (hcase : vars.text? "caseIdentifier" = some case)
      (hnone : ∀ accounts, directory.technicalAccounts.find? name = some accounts →
        accounts.find? (scheme ++ "." ++ case) = none) :
      Unmapped directory vars stage (.technicalAccountNotConfigured name (scheme ++ "." ++ case))
  | operation {context : BookingContext} {movements : List Movement} {m : Movement}
      {ids : Dict String Int64} (hmoves : stage.Moves directory vars context movements)
      (hmem : m ∈ movements) (hids : directory.paymentTypes.find? context.tenant = some ids)
      (hnone : ids.find? m.key = none) :
      Unmapped directory vars stage (.operationNotConfigured context.tenant m.key)

theorem BookingStage.Unmapped.kind_eq {directory : TenantDirectory} {vars : Variables}
    {stage : BookingStage} {e : Error} (h : stage.Unmapped directory vars e) :
    e.kind = .configuration := by
  cases h <;> rfl

/-- An error of planning: about what is not configured, or about what cannot be read. -/
def BookingStage.Stops (directory : TenantDirectory) (vars : Variables) (stage : BookingStage)
    (e : Error) : Prop :=
  stage.Unmapped directory vars e ∨ e.kind = .decode

namespace BookingStage.Stops

variable {directory : TenantDirectory} {vars : Variables} {stage : BookingStage} {e : Error}

theorem kind_ne_ledger (h : stage.Stops directory vars e) : e.kind ≠ .ledger := by
  rcases h with hunmapped | hdecode
  · simp [hunmapped.kind_eq]
  · simp [hdecode]

theorem kind_eq_configuration_iff (h : stage.Stops directory vars e) :
    e.kind = .configuration ↔ stage.Unmapped directory vars e := by
  refine ⟨fun hkind => h.resolve_right fun hdecode => ?_, Unmapped.kind_eq⟩
  cases hkind.symm.trans hdecode

theorem kind_eq_decode_iff (h : stage.Stops directory vars e) :
    e.kind = .decode ↔ ¬stage.Unmapped directory vars e := by
  refine ⟨fun hkind hunmapped => ?_, h.resolve_left⟩
  cases hkind.symm.trans hunmapped.kind_eq

end BookingStage.Stops

section Stops

variable {stage : BookingStage} {settings : LedgerSettings} {directory : TenantDirectory}
  {clock : Clock} {vars : Variables}

/-! ## What cannot be read -/

/-- A computation that fails only for what cannot be read. -/
abbrev Reads {α : Type} (x : Except Error α) : Prop := FailsOnly (fun e => e.kind = .decode) x

theorem Reads.stops {α : Type} {x : Except Error α} (h : Reads x) :
    FailsOnly (stage.Stops directory vars) x := h.mono fun _ => .inr

theorem Request.reads_reported {α : Type} (x : Except Reading.Fault α) : Reads (reported x) := by
  intro e he
  obtain ⟨fault, -, rfl⟩ := mapError_eq_error_iff.1 he
  rfl

theorem reads_presentVariable {α : Type} (name : String) (value : Option α) :
    Reads (presentVariable name value) := by
  cases value with
  | some a => exact .ok a
  | none =>
    rintro e ⟨⟩
    rfl

theorem reads_readEntry (kind : MessageKind) (raw : String) (direction : Option Direction) :
    Reads (readEntry kind raw direction) := by
  intro e he
  obtain ⟨fault, -, rfl⟩ := mapError_eq_error_iff.1 he
  rfl

theorem ConversionCreditRequest.reads_entry (r : ConversionCreditRequest) :
    Reads (if stage = .conversionReturn then r.returnEntry else r.creditEntry) := by
  split
  · refine (reads_presentVariable _ _).bind fun raw _ => (reads_readEntry _ _ _).bind fun _ _ => ?_
    split
    · exact (reads_readEntry _ _ _).bind fun _ _ => .ok _
    · exact .ok _
  · exact (reads_presentVariable _ _).bind fun _ _ => reads_readEntry _ _ _

/-- With a pattern that can be read there is always a date. -/
theorem reads_dateOrToday (hpattern : ∃ pattern, settings.datePattern = .ok pattern)
    (given : Option String) : Reads (dateOrToday settings clock given) := by
  obtain ⟨date, hdate⟩ := exists_dateOrToday_eq_ok hpattern clock given
  rw [hdate]
  exact .ok date

theorem RevertRequest.reads_bookingDate (hpattern : ∃ pattern, settings.datePattern = .ok pattern)
    (r : RevertRequest) : Reads (r.bookingDate settings clock stage) := by
  rw [bookingDate]
  split
  · exact reads_dateOrToday hpattern r.date
  · exact (reads_presentVariable _ _).map _

theorem DisposalDepositRequest.reads_correlationId (r : DisposalDepositRequest) :
    Reads r.correlationId := by
  rw [correlationId]
  split
  · exact .ok _
  · refine FailsOnly.bind ?_ fun _ _ => .ok _
    intro e he
    obtain ⟨fault, -, rfl⟩ := mapError_eq_error_iff.1 he
    rfl

/-! ## What is not configured -/

namespace BookingContext.ReadFrom

variable {c : BookingContext}

theorem stops_resolve (hc : c.ReadFrom vars) :
    FailsOnly (stage.Stops directory vars) (directory.resolve c.tenant) := by
  intro e he
  rw [TenantDirectory.resolve] at he
  split at he
  · cases he
  · rename_i hnone
    cases he
    exact .inl (.tenant (build_required_text_eq_ok_iff.1 hc.tenant) hnone)

theorem stops_technicalAccount (hc : c.ReadFrom vars) {case : String} {tenant : Tenant}
    (hcase : vars.text? "caseIdentifier" = some case)
    (htenant : directory.resolve c.tenant = .ok tenant) :
    FailsOnly (BookingStage.technicalCredit.Stops directory vars)
      (tenant.technicalAccount c.scheme case) := by
  intro e he
  obtain ⟨hname, -, haccounts⟩ := TenantDirectory.resolve_eq_ok htenant
  rw [Tenant.technicalAccount] at he
  split at he
  · cases he
  · rename_i hnone
    cases he
    rw [haccounts, Option.bind_eq_none_iff] at hnone
    rw [hname]
    exact .inl (.technicalAccount rfl (build_required_text_eq_ok_iff.1 hc.tenant)
      (build_required_text_eq_ok_iff.1 hc.scheme) hcase hnone)

end BookingContext.ReadFrom

/-! ## Requests -/

theorem TechnicalCreditRequest.stops_outline {r : TechnicalCreditRequest}
    (hread : read vars = .ok r) :
    FailsOnly (BookingStage.technicalCredit.Stops directory vars) (r.outline directory) := by
  have hr := read_eq_ok_iff.1 hread
  have hcase := build_required_text_eq_ok_iff.1 hr.case
  refine hr.context.stops_resolve.bind fun tenant htenant => ?_
  refine (reads_presentVariable _ _).stops.bind fun id _ => ?_
  refine (hr.context.stops_technicalAccount hcase htenant).bind fun account _ => ?_
  exact (reads_readEntry _ _ _).stops.bind fun entry _ => .ok _

theorem ConversionCreditRequest.stops_outline {r : ConversionCreditRequest}
    (hread : read vars = .ok r) :
    FailsOnly (stage.Stops directory vars) (r.outline directory stage) := by
  have hr := read_eq_ok_iff.1 hread
  refine hr.context.stops_resolve.bind fun tenant _ => ?_
  refine (reads_presentVariable _ _).stops.bind fun id _ => ?_
  have hentry : FailsOnly (stage.Stops directory vars)
      (if stage = .conversionReturn then r.returnEntry else r.creditEntry) := r.reads_entry.stops
  split at hentry <;> rename_i hreturn
  · rw [if_pos hreturn]
    exact hentry.bind fun entry _ => .ok _
  · rw [if_neg hreturn]
    exact hentry.bind fun entry _ => .ok _

theorem ConversionDebitRequest.stops_outline {r : ConversionDebitRequest}
    (hread : read vars = .ok r) :
    FailsOnly (stage.Stops directory vars) (r.outline directory) := by
  have hr := read_eq_ok_iff.1 hread
  refine hr.context.stops_resolve.bind fun tenant _ => ?_
  refine (reads_presentVariable _ _).stops.bind fun id _ => ?_
  exact (reads_readEntry _ _ _).stops.bind fun entry _ => .ok _

theorem RevertRequest.stops_outline {r : RevertRequest}
    (hpattern : ∃ pattern, settings.datePattern = .ok pattern) (hread : read vars = .ok r) :
    FailsOnly (stage.Stops directory vars) (r.outline settings directory clock stage) := by
  have hr := read_eq_ok_iff.1 hread
  refine hr.context.stops_resolve.bind fun tenant _ => ?_
  refine (reads_presentVariable _ _).stops.bind fun id _ => ?_
  refine (r.reads_bookingDate hpattern).stops.bind fun date _ => ?_
  exact (reads_readEntry _ _ _).stops.bind fun entry _ => .ok _

theorem DisposalDepositRequest.stops_outline {r : DisposalDepositRequest}
    (hpattern : ∃ pattern, settings.datePattern = .ok pattern) (hread : read vars = .ok r) :
    FailsOnly (stage.Stops directory vars) (r.outline settings directory clock) := by
  have hr := read_eq_ok_iff.1 hread
  refine hr.context.stops_resolve.bind fun tenant _ => ?_
  refine r.reads_correlationId.stops.bind fun id _ => ?_
  refine (reads_dateOrToday hpattern r.date).stops.bind fun date _ => ?_
  exact (reads_readEntry _ _ _).stops.bind fun entry _ => .ok _

end Stops

/-! ## Stages -/

namespace BookingStage

variable {env : Environment} {vars : Variables} {stage : BookingStage}

theorem stops_outline (hpattern : ∃ pattern, env.settings.datePattern = .ok pattern) :
    FailsOnly (stage.Stops env.directory vars) (stage.outline env vars) := by
  cases stage
  all_goals refine (Request.reads_reported _).stops.bind fun r hread => ?_
  case technicalCredit => exact TechnicalCreditRequest.stops_outline hread
  case conversionDebit => exact ConversionDebitRequest.stops_outline hread
  case disposalDeposit => exact DisposalDepositRequest.stops_outline hpattern hread
  case revert | revertWithoutFee => exact RevertRequest.stops_outline hpattern hread
  all_goals exact ConversionCreditRequest.stops_outline hread

/-- Payment types are missing for movements of the stage only. -/
theorem stops_plan_of_outline {o : Outline} (houtline : stage.outline env vars = .ok o) :
    FailsOnly (stage.Stops env.directory vars) o.plan := by
  obtain ⟨context, htenant, hmoves⟩ := moves_of_outline houtline
  obtain ⟨hname, hids, -⟩ := TenantDirectory.resolve_eq_ok htenant
  refine FailsOnly.bind (.mapM fun leg hleg => ?_) fun _ _ => .ok _
  refine FailsOnly.bind ?_ fun _ _ => .ok _
  intro e he
  rw [Tenant.paymentType] at he
  split at he
  · cases he
  · rename_i hnone
    cases he
    rw [hname]
    exact .inl (.operation hmoves (List.mem_map_of_mem hleg) hids hnone)

/-- A booking that cannot be planned is stopped by something that is not configured or cannot be
read. -/
theorem stops_plan (hpattern : ∃ pattern, env.settings.datePattern = .ok pattern) :
    FailsOnly (stage.Stops env.directory vars) (stage.plan env vars) :=
  (stops_outline hpattern).bind fun _ houtline => stops_plan_of_outline houtline

end BookingStage

end PaymentBooking
