import PaymentBooking.Booking.Plan
import PaymentBooking.Proofs.Outcome

/-! # What an outline takes from its request

A stage that can be outlined has read its request and found the tenant that the request names. The
legs are those of the stage, on the accounts and with the amounts of the request; messages and dates
have no part in them.
-/

namespace PaymentBooking

/-- A tenant that is found has the name that was asked for and the tables under that name. -/
theorem TenantDirectory.resolve_eq_ok {d : TenantDirectory} {name : String} {tenant : Tenant}
    (h : d.resolve name = .ok tenant) :
    tenant.name = name ∧ d.paymentTypes.find? name = some tenant.tables.paymentTypes ∧
      tenant.tables.technicalAccounts = d.technicalAccounts.find? name := by
  rw [resolve] at h
  split at h
  · rename_i types htypes
    cases h
    exact ⟨rfl, htypes, rfl⟩
  · cases h

theorem TenantDirectory.exists_resolve_eq_ok {d : TenantDirectory} {name : String}
    {types : Dict String Int64} (h : d.paymentTypes.find? name = some types) :
    ∃ tenant, d.resolve name = .ok tenant := by
  rw [resolve, h]
  exact ⟨_, rfl⟩

theorem Tenant.technicalAccount_eq_ok_iff {tenant : Tenant} {scheme case : String}
    {account : Int64} :
    tenant.technicalAccount scheme case = .ok account ↔
      ∃ accounts, tenant.tables.technicalAccounts = some accounts ∧
        accounts.find? (scheme ++ "." ++ case) = some account := by
  rw [← Option.bind_eq_some_iff, technicalAccount, technicalKey]
  split <;> simp [*]

theorem Tenant.paymentType_eq_ok_iff {tenant : Tenant} {key : OperationKey} {id : Int64} :
    tenant.paymentType key = .ok id ↔ tenant.tables.paymentTypes.find? key.text = some id := by
  rw [paymentType]
  split <;> simp [*]

/-- How a stage outlines a booking: by the request that it reads. -/
inductive BookingStage.Outlines (env : Environment) (vars : Variables) :
    BookingStage → Outline → Prop
  | technicalCredit {r : TechnicalCreditRequest} {o : Outline}
      (hread : TechnicalCreditRequest.read vars = .ok r) (h : r.outline env.directory = .ok o) :
      Outlines env vars .technicalCredit o
  | conversionCredit {stage : BookingStage} {r : ConversionCreditRequest} {o : Outline}
      (hstage : stage ∈ [.conversionCredit, .conversionRecall, .conversionReturn])
      (hread : ConversionCreditRequest.read vars = .ok r)
      (h : r.outline env.directory stage = .ok o) : Outlines env vars stage o
  | conversionDebit {r : ConversionDebitRequest} {o : Outline}
      (hread : ConversionDebitRequest.read vars = .ok r) (h : r.outline env.directory = .ok o) :
      Outlines env vars .conversionDebit o
  | revert {stage : BookingStage} {r : RevertRequest} {o : Outline}
      (hstage : stage ∈ [.revert, .revertWithoutFee]) (hread : RevertRequest.read vars = .ok r)
      (h : r.outline env.settings env.directory env.clock stage = .ok o) : Outlines env vars stage o
  | disposalDeposit {r : DisposalDepositRequest} {o : Outline}
      (hread : DisposalDepositRequest.read vars = .ok r)
      (h : r.outline env.settings env.directory env.clock = .ok o) :
      Outlines env vars .disposalDeposit o

theorem BookingStage.outline_eq_ok_iff {stage : BookingStage} {env : Environment}
    {vars : Variables} {o : Outline} :
    stage.outline env vars = .ok o ↔ stage.Outlines env vars o := by
  constructor
  · intro h
    cases stage
    all_goals obtain ⟨r, hread, h⟩ := bind_eq_ok_iff.1 h
    case technicalCredit => exact .technicalCredit hread h
    case conversionDebit => exact .conversionDebit hread h
    case disposalDeposit => exact .disposalDeposit hread h
    case revert | revertWithoutFee => exact .revert (by decide) hread h
    all_goals exact .conversionCredit (by decide) hread h
  · intro h
    cases h with
    | technicalCredit hread h => exact bind_eq_ok_iff.2 ⟨_, hread, h⟩
    | conversionCredit hstage hread h =>
      simp only [List.mem_cons, List.not_mem_nil, or_false] at hstage
      rcases hstage with rfl | rfl | rfl <;> exact bind_eq_ok_iff.2 ⟨_, hread, h⟩
    | conversionDebit hread h => exact bind_eq_ok_iff.2 ⟨_, hread, h⟩
    | revert hstage hread h =>
      simp only [List.mem_cons, List.not_mem_nil, or_false] at hstage
      rcases hstage with rfl | rfl <;> exact bind_eq_ok_iff.2 ⟨_, hread, h⟩
    | disposalDeposit hread h => exact bind_eq_ok_iff.2 ⟨_, hread, h⟩

theorem presentVariable_eq_ok_iff {α : Type} {name : String} {value : Option α} {a : α} :
    presentVariable name value = .ok a ↔ value = some a := by
  cases value <;> simp [presentVariable]

theorem BookingContext.requiredCorrelationId_eq_ok_iff {c : BookingContext} {id : String} :
    c.requiredCorrelationId = .ok id ↔ c.correlationId = some id := presentVariable_eq_ok_iff

theorem readEntry_eq_ok_iff {kind : MessageKind} {raw : String} {direction : Option Direction}
    {entry : StatementEntry} :
    readEntry kind raw direction = .ok entry ↔ Message.entry kind raw direction = .ok entry :=
  mapError_eq_ok_iff

/-! ## Requests -/

section Outlines

variable {settings : LedgerSettings} {directory : TenantDirectory} {clock : Clock}
  {stage : BookingStage} {o : Outline}

theorem TechnicalCreditRequest.outline_eq_ok_iff {r : TechnicalCreditRequest} :
    r.outline directory = .ok o ↔ ∃ tenant id account entry,
      directory.resolve r.context.tenant = .ok tenant ∧ r.context.correlationId = some id ∧
      tenant.technicalAccount r.context.scheme r.case = .ok account ∧
      Message.entry .pacs008 r.pacs008 none = .ok entry ∧
      o = {
        stage := .technicalCredit
        tenant
        scheme := r.context.scheme
        date := r.date
        statement := ⟨id, r.context.groupId, entry.payload.print, .unknown⟩
        legs := [⟨account, .technical r.case, .withdrawal, .amount, r.amount, r.context.purpose⟩]
        resolved := .ofList [("technicalAccountAmsId", .ofInt64 account)] } := by
  simp only [← readEntry_eq_ok_iff, ← BookingContext.requiredCorrelationId_eq_ok_iff]
  constructor
  · intro h
    obtain ⟨tenant, htenant, h⟩ := bind_eq_ok_iff.1 h
    obtain ⟨id, hid, h⟩ := bind_eq_ok_iff.1 h
    obtain ⟨account, haccount, h⟩ := bind_eq_ok_iff.1 h
    obtain ⟨entry, hentry, h⟩ := bind_eq_ok_iff.1 h
    cases h
    exact ⟨tenant, id, account, entry, htenant, hid, haccount, hentry, rfl⟩
  · rintro ⟨tenant, id, account, entry, htenant, hid, haccount, hentry, rfl⟩
    exact bind_eq_ok_iff.2 ⟨tenant, htenant, bind_eq_ok_iff.2 ⟨id, hid,
      bind_eq_ok_iff.2 ⟨account, haccount, bind_eq_ok_iff.2 ⟨entry, hentry, rfl⟩⟩⟩⟩

namespace ConversionCreditRequest

variable {r : ConversionCreditRequest} {entry : StatementEntry}

theorem creditEntry_eq_ok_iff :
    r.creditEntry = .ok entry ↔ ∃ raw, r.pacs008 = some raw ∧
      Message.entry .pacs008 raw (some .credit) = .ok entry := by
  rw [creditEntry, bind_eq_ok_iff]
  simp only [presentVariable_eq_ok_iff, readEntry_eq_ok_iff]

/-- A return is read with the original credit exactly if that is given. -/
theorem returnEntry_eq_ok_iff :
    r.returnEntry = .ok entry ↔ ∃ raw returned, r.pacs004 = some raw ∧
      Message.entry .pacs004 raw (some .credit) = .ok returned ∧
      ((r.pacs008 = none ∧ entry = { returned with payload := StatementEntry.emptyPayload }) ∨
        ∃ original credit, r.pacs008 = some original ∧
          Message.entry .pacs008 original (some .credit) = .ok credit ∧
          entry = { returned with payload := credit.payload }) := by
  simp only [← readEntry_eq_ok_iff]
  constructor
  · intro h
    obtain ⟨raw, hraw, h⟩ := bind_eq_ok_iff.1 h
    obtain ⟨returned, hreturned, h⟩ := bind_eq_ok_iff.1 h
    refine ⟨raw, returned, presentVariable_eq_ok_iff.1 hraw, hreturned, ?_⟩
    cases hpacs008 : r.pacs008 with
    | none =>
      rw [hpacs008] at h
      cases h
      exact .inl ⟨rfl, rfl⟩
    | some original =>
      rw [hpacs008] at h
      obtain ⟨credit, hcredit, h⟩ := bind_eq_ok_iff.1 h
      cases h
      exact .inr ⟨original, credit, rfl, hcredit, rfl⟩
  · rintro ⟨raw, returned, hraw, hreturned, horiginal⟩
    refine bind_eq_ok_iff.2 ⟨raw, presentVariable_eq_ok_iff.2 hraw,
      bind_eq_ok_iff.2 ⟨returned, hreturned, ?_⟩⟩
    rcases horiginal with ⟨hnone, rfl⟩ | ⟨original, credit, horiginal, hcredit, rfl⟩
    · rw [hnone]
    · rw [horiginal]
      exact bind_eq_ok_iff.2 ⟨credit, hcredit, rfl⟩

theorem outline_eq_ok_iff :
    r.outline directory stage = .ok o ↔ ∃ tenant id entry,
      directory.resolve r.context.tenant = .ok tenant ∧ r.context.correlationId = some id ∧
      (if stage = .conversionReturn then r.returnEntry else r.creditEntry) = .ok entry ∧
      o = {
        stage
        tenant
        scheme := r.context.scheme
        date := r.date
        statement := ⟨id, r.context.groupId, entry.payload.print,
          entry.party.withIbanIfNone r.creditorIban⟩
        legs := [⟨r.conversionAccount, .conversion, .deposit, .amount, r.amount,
          r.context.purpose⟩]
        resolved := .empty } := by
  simp only [← BookingContext.requiredCorrelationId_eq_ok_iff]
  constructor
  · intro h
    obtain ⟨tenant, htenant, h⟩ := bind_eq_ok_iff.1 h
    obtain ⟨id, hid, h⟩ := bind_eq_ok_iff.1 h
    -- The choice of the message stands in front of what is made of its entry.
    by_cases hreturn : stage = .conversionReturn
    · rw [if_pos hreturn] at h ⊢
      obtain ⟨entry, hentry, h⟩ := bind_eq_ok_iff.1 h
      cases h
      exact ⟨tenant, id, entry, htenant, hid, hentry, rfl⟩
    · rw [if_neg hreturn] at h ⊢
      obtain ⟨entry, hentry, h⟩ := bind_eq_ok_iff.1 h
      cases h
      exact ⟨tenant, id, entry, htenant, hid, hentry, rfl⟩
  · rintro ⟨tenant, id, entry, htenant, hid, hentry, rfl⟩
    refine bind_eq_ok_iff.2 ⟨tenant, htenant, bind_eq_ok_iff.2 ⟨id, hid, ?_⟩⟩
    by_cases hreturn : stage = .conversionReturn
    · rw [if_pos hreturn] at hentry ⊢
      exact bind_eq_ok_iff.2 ⟨entry, hentry, rfl⟩
    · rw [if_neg hreturn] at hentry ⊢
      exact bind_eq_ok_iff.2 ⟨entry, hentry, rfl⟩

end ConversionCreditRequest

theorem ConversionDebitRequest.outline_eq_ok_iff {r : ConversionDebitRequest} :
    r.outline directory = .ok o ↔ ∃ tenant id entry,
      directory.resolve r.context.tenant = .ok tenant ∧ r.context.correlationId = some id ∧
      Message.entry .pain001 r.pain001 none = .ok entry ∧
      o = {
        stage := .conversionDebit
        tenant
        scheme := r.context.scheme
        date := r.date
        statement := ⟨id, r.context.groupId, entry.payload.print, entry.party⟩
        legs := Leg.withFee r.conversionAccount .conversion .withdrawal r.amount r.context.purpose
          r.fee.chargeable r.feePurpose
        resolved := .empty } := by
  simp only [← readEntry_eq_ok_iff, ← BookingContext.requiredCorrelationId_eq_ok_iff]
  constructor
  · intro h
    obtain ⟨tenant, htenant, h⟩ := bind_eq_ok_iff.1 h
    obtain ⟨id, hid, h⟩ := bind_eq_ok_iff.1 h
    obtain ⟨entry, hentry, h⟩ := bind_eq_ok_iff.1 h
    cases h
    exact ⟨tenant, id, entry, htenant, hid, hentry, rfl⟩
  · rintro ⟨tenant, id, entry, htenant, hid, hentry, rfl⟩
    exact bind_eq_ok_iff.2 ⟨tenant, htenant, bind_eq_ok_iff.2 ⟨id, hid,
      bind_eq_ok_iff.2 ⟨entry, hentry, rfl⟩⟩⟩

theorem RevertRequest.outline_eq_ok_iff {r : RevertRequest} :
    r.outline settings directory clock stage = .ok o ↔ ∃ tenant id date resolved entry,
      directory.resolve r.context.tenant = .ok tenant ∧ r.context.correlationId = some id ∧
      r.bookingDate settings clock stage = .ok (date, resolved) ∧
      Message.entry .pain001 r.pain001 none = .ok entry ∧
      o = {
        stage
        tenant
        scheme := r.context.scheme
        date
        statement := ⟨id, r.context.groupId, entry.payload.print,
          entry.party.overrideIban r.debtorIban⟩
        legs := Leg.undone r.conversionAccount r.disposalAccount r.amount r.context.purpose
          r.fee.chargeable (if stage = .revertWithoutFee then r.context.purpose else r.feePurpose)
        resolved } := by
  simp only [← readEntry_eq_ok_iff, ← BookingContext.requiredCorrelationId_eq_ok_iff]
  constructor
  · intro h
    obtain ⟨tenant, htenant, h⟩ := bind_eq_ok_iff.1 h
    obtain ⟨id, hid, h⟩ := bind_eq_ok_iff.1 h
    obtain ⟨⟨date, resolved⟩, hdate, h⟩ := bind_eq_ok_iff.1 h
    obtain ⟨entry, hentry, h⟩ := bind_eq_ok_iff.1 h
    cases h
    exact ⟨tenant, id, date, resolved, entry, htenant, hid, hdate, hentry, rfl⟩
  · rintro ⟨tenant, id, date, resolved, entry, htenant, hid, hdate, hentry, rfl⟩
    exact bind_eq_ok_iff.2 ⟨tenant, htenant, bind_eq_ok_iff.2 ⟨id, hid,
      bind_eq_ok_iff.2 ⟨_, hdate, bind_eq_ok_iff.2 ⟨entry, hentry, rfl⟩⟩⟩⟩

theorem DisposalDepositRequest.outline_eq_ok_iff {r : DisposalDepositRequest} :
    r.outline settings directory clock = .ok o ↔
      ∃ tenant id resolvedId date resolvedDate entry,
        directory.resolve r.context.tenant = .ok tenant ∧
        r.correlationId = .ok (id, resolvedId) ∧
        dateOrToday settings clock r.date = .ok (date, resolvedDate) ∧
        Message.entry .camt056 r.camt056 none = .ok entry ∧
        o = {
          stage := .disposalDeposit
          tenant
          scheme := r.context.scheme
          date
          statement := ⟨id, some (r.context.groupId.getD id), entry.payload.print,
            entry.party.overrideIban r.debtorIban⟩
          legs := Leg.undone r.conversionAccount r.disposalAccount r.amount r.context.purpose none
            none
          resolved := resolvedId.insertMany resolvedDate.toList } := by
  simp only [← readEntry_eq_ok_iff]
  constructor
  · intro h
    obtain ⟨tenant, htenant, h⟩ := bind_eq_ok_iff.1 h
    obtain ⟨⟨id, resolvedId⟩, hid, h⟩ := bind_eq_ok_iff.1 h
    obtain ⟨⟨date, resolvedDate⟩, hdate, h⟩ := bind_eq_ok_iff.1 h
    obtain ⟨entry, hentry, h⟩ := bind_eq_ok_iff.1 h
    cases h
    exact ⟨tenant, id, resolvedId, date, resolvedDate, entry, htenant, hid, hdate, hentry, rfl⟩
  · rintro ⟨tenant, id, resolvedId, date, resolvedDate, entry, htenant, hid, hdate, hentry, rfl⟩
    exact bind_eq_ok_iff.2 ⟨tenant, htenant, bind_eq_ok_iff.2 ⟨_, hid,
      bind_eq_ok_iff.2 ⟨_, hdate, bind_eq_ok_iff.2 ⟨entry, hentry, rfl⟩⟩⟩⟩

end Outlines

theorem BookingStage.stage_of_outline {stage : BookingStage} {env : Environment}
    {vars : Variables} {o : Outline} (h : stage.outline env vars = .ok o) : o.stage = stage := by
  cases outline_eq_ok_iff.1 h with
  | technicalCredit _ h =>
    obtain ⟨_, _, _, _, -, -, -, -, rfl⟩ := TechnicalCreditRequest.outline_eq_ok_iff.1 h
    rfl
  | conversionCredit _ _ h =>
    obtain ⟨_, _, _, -, -, -, rfl⟩ := ConversionCreditRequest.outline_eq_ok_iff.1 h
    rfl
  | conversionDebit _ h =>
    obtain ⟨_, _, _, -, -, -, rfl⟩ := ConversionDebitRequest.outline_eq_ok_iff.1 h
    rfl
  | revert _ _ h =>
    obtain ⟨_, _, _, _, _, -, -, -, -, rfl⟩ := RevertRequest.outline_eq_ok_iff.1 h
    rfl
  | disposalDeposit _ h =>
    obtain ⟨_, _, _, _, _, _, -, -, -, -, rfl⟩ := DisposalDepositRequest.outline_eq_ok_iff.1 h
    rfl

end PaymentBooking
