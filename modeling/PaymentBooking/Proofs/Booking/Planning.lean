import PaymentBooking.Proofs.Booking.Columns
import PaymentBooking.Proofs.Settings.Addressing

/-! # When a booking can be planned

A booking is planned exactly if the job and the tables of its tenant give all that its stage needs:
no booking is refused for want of something that another stage needs, and none is planned with
something missing.
-/

namespace PaymentBooking

open Reading.RecordReader

/-- A text that is JSON and has a first transaction. -/
def MessageKind.Decodes (kind : MessageKind) (raw : String) : Prop :=
  ∃ document node, Json.parse? raw = some document ∧
    document.at? kind.layout.transaction = some node

/-- The message that a stage cannot do without, and the variable that it is in. -/
def BookingStage.message : BookingStage → MessageKind × String
  | .technicalCredit | .conversionCredit | .conversionRecall => (.pacs008, "originalPacs008")
  | .conversionReturn => (.pacs004, "pacs004")
  | .conversionDebit | .revert | .revertWithoutFee => (.pain001, "originalPain001")
  | .disposalDeposit => (.camt056, "camt056")

/-- A stage whose request can be read from the variables. -/
inductive BookingStage.HasRequest (vars : Variables) : BookingStage → Prop
  | technicalCredit {r : TechnicalCreditRequest} (h : TechnicalCreditRequest.read vars = .ok r) :
      HasRequest vars .technicalCredit
  | conversionCredit {stage : BookingStage} {r : ConversionCreditRequest}
      (hstage : stage ∈ [.conversionCredit, .conversionRecall, .conversionReturn])
      (h : ConversionCreditRequest.read vars = .ok r) : HasRequest vars stage
  | conversionDebit {r : ConversionDebitRequest} (h : ConversionDebitRequest.read vars = .ok r) :
      HasRequest vars .conversionDebit
  | revert {stage : BookingStage} {r : RevertRequest}
      (hstage : stage ∈ [.revert, .revertWithoutFee])
      (h : RevertRequest.read vars = .ok r) : HasRequest vars stage
  | disposalDeposit {r : DisposalDepositRequest} (h : DisposalDepositRequest.read vars = .ok r) :
      HasRequest vars .disposalDeposit

/-- What a stage needs before it looks for payment types. -/
structure BookingStage.Supplied (directory : TenantDirectory) (vars : Variables)
    (stage : BookingStage) : Prop where
  request : stage.HasRequest vars
  /-- The tenant is configured. -/
  tenant : ∃ name types, vars.text? "tenantIdentifier" = some name ∧
    directory.paymentTypes.find? name = some types
  /-- There is a correlation id, or one can be made of the cancelled payment. -/
  correlationId : (∃ id, vars.text? "internalCorrelationId" = some id) ∨
    stage = .disposalDeposit ∧ ∃ raw reference, vars.text? "camt056" = some raw ∧
      CancellationReference.ofMessage raw = .ok reference
  /-- The technical account is configured for the case of the payment scheme. -/
  technicalAccount : stage = .technicalCredit → ∃ name scheme case accounts account,
    vars.text? "tenantIdentifier" = some name ∧ vars.text? "paymentScheme" = some scheme ∧
    vars.text? "caseIdentifier" = some case ∧
    directory.technicalAccounts.find? name = some accounts ∧
    accounts.find? (scheme ++ "." ++ case) = some account
  date : (∃ date, vars.text? "transactionDate" = some date) ∨
    stage ∈ [.revertWithoutFee, .disposalDeposit]
  message : ∃ raw, vars.text? stage.message.2 = some raw ∧ stage.message.1.Decodes raw
  /-- The original credit of a return need not be given, but has to be decoded if it is. -/
  original : stage = .conversionReturn →
    ∀ raw, vars.text? "originalPacs008" = some raw → MessageKind.pacs008.Decodes raw

/-- All that a stage needs to be planned. -/
structure BookingStage.Plannable (directory : TenantDirectory) (vars : Variables)
    (stage : BookingStage) : Prop extends stage.Supplied directory vars where
  /-- The tenant has a payment type for the key of every movement. -/
  paymentTypes : ∃ context movements ids, stage.Moves directory vars context movements ∧
    directory.paymentTypes.find? context.tenant = some ids ∧
    ∀ m ∈ movements, ∃ id, ids.find? m.key = some id

/-! ## What is found -/

theorem Message.exists_entry_eq_ok_iff {kind : MessageKind} {raw : String}
    {direction : Option Direction} :
    (∃ entry, Message.entry kind raw direction = .ok entry) ↔ kind.Decodes raw := by
  simp only [entry_eq_ok_iff, MessageKind.Decodes, transaction]
  cases hdocument : Json.parse? raw with
  | none => simp
  | some document => cases hnode : document.at? kind.layout.transaction <;> simp [hnode]

/-- What a stage moves is determined by the variables. -/
theorem BookingStage.Moves.unique {directory : TenantDirectory} {vars : Variables}
    {stage : BookingStage} {context context' : BookingContext}
    {movements movements' : List Movement}
    (h : stage.Moves directory vars context movements)
    (h' : stage.Moves directory vars context' movements') :
    context = context' ∧ movements = movements' := by
  cases h with
  | technicalCredit hread haccounts haccount =>
    cases h' with
    | technicalCredit hread' haccounts' haccount' =>
      cases hread.symm.trans hread'
      cases haccounts.symm.trans haccounts'
      cases haccount.symm.trans haccount'
      exact ⟨rfl, rfl⟩
  | conversionCredit hread | conversionRecall hread | conversionReturn hread
  | conversionDebit hread | revert hread | revertWithoutFee hread | disposalDeposit hread =>
    -- The movements are those of the one request that can be read.
    cases h'
    rename_i hread'
    cases hread.symm.trans hread'
    exact ⟨rfl, rfl⟩

theorem Outline.exists_plan_eq_ok_iff {o : Outline} :
    (∃ plan, o.plan = .ok plan) ↔
      ∀ l ∈ o.legs, ∃ id,
        o.tenant.tables.paymentTypes.find? (l.key o.scheme o.stage).text = some id := by
  rw [plan, exists_bind_eq_ok_iff]
  simp only [Except.ok.injEq, exists_eq', and_true]
  rw [exists_mapM_eq_ok_iff]
  refine forall₂_congr fun l _ => ?_
  rw [Leg.post, exists_bind_eq_ok_iff]
  simp only [Tenant.paymentType_eq_ok_iff, Except.ok.injEq, exists_eq', and_true]

section Supplied

variable {stage : BookingStage} {settings : LedgerSettings} {directory : TenantDirectory}
  {clock : Clock} {vars : Variables}

/-! ## Parts of a request -/

namespace BookingContext.ReadFrom

variable {c : BookingContext}

theorem exists_resolve_iff (hc : c.ReadFrom vars) :
    (∃ tenant, directory.resolve c.tenant = .ok tenant) ↔
      ∃ name types, vars.text? "tenantIdentifier" = some name ∧
        directory.paymentTypes.find? name = some types := by
  rw [build_required_text_eq_ok_iff.1 hc.tenant]
  constructor
  · rintro ⟨tenant, htenant⟩
    exact ⟨_, _, rfl, (TenantDirectory.resolve_eq_ok htenant).2.1⟩
  · rintro ⟨name, types, hname, htypes⟩
    cases hname
    exact TenantDirectory.exists_resolve_eq_ok htypes

theorem exists_correlationId_iff (hc : c.ReadFrom vars) :
    (∃ id, c.correlationId = some id) ↔
      ∃ id, vars.text? "internalCorrelationId" = some id := by
  rw [text?_of_build_optional hc.correlationId]

/-- The technical account of a case is that of the tenant and the scheme that the variables name. -/
theorem exists_technicalAccount_iff (hc : c.ReadFrom vars) {case : String} {tenant : Tenant}
    (hcase : vars.text? "caseIdentifier" = some case)
    (htenant : directory.resolve c.tenant = .ok tenant) :
    (∃ account, tenant.technicalAccount c.scheme case = .ok account) ↔
      ∃ name scheme case accounts account, vars.text? "tenantIdentifier" = some name ∧
        vars.text? "paymentScheme" = some scheme ∧ vars.text? "caseIdentifier" = some case ∧
        directory.technicalAccounts.find? name = some accounts ∧
        accounts.find? (scheme ++ "." ++ case) = some account := by
  have hname := build_required_text_eq_ok_iff.1 hc.tenant
  have hscheme := build_required_text_eq_ok_iff.1 hc.scheme
  simp only [Tenant.technicalAccount_eq_ok_iff, (TenantDirectory.resolve_eq_ok htenant).2.2]
  constructor
  · rintro ⟨account, accounts, haccounts, haccount⟩
    exact ⟨_, _, _, accounts, account, hname, hscheme, hcase, haccounts, haccount⟩
  · rintro ⟨name, scheme, case, accounts, account, hname', hscheme', hcase', haccounts, haccount⟩
    cases hname.symm.trans hname'
    cases hscheme.symm.trans hscheme'
    cases hcase.symm.trans hcase'
    exact ⟨account, accounts, haccounts, haccount⟩

end BookingContext.ReadFrom

theorem BookingStage.exists_message_iff {direction : Option Direction} {raw : String}
    (hraw : vars.text? stage.message.2 = some raw) :
    (∃ entry, Message.entry stage.message.1 raw direction = .ok entry) ↔
      ∃ raw, vars.text? stage.message.2 = some raw ∧ stage.message.1.Decodes raw := by
  simp [Message.exists_entry_eq_ok_iff, hraw]

theorem exists_dateOrToday_eq_ok (hpattern : ∃ pattern, settings.datePattern = .ok pattern)
    (clock : Clock) (given : Option String) :
    ∃ date, dateOrToday settings clock given = .ok date := by
  obtain ⟨pattern, hpattern⟩ := hpattern
  cases given with
  | some given => exact ⟨_, rfl⟩
  | none =>
    rw [dateOrToday, LedgerSettings.today, hpattern]
    exact ⟨_, rfl⟩

/-! ## Requests -/

theorem TechnicalCreditRequest.exists_outline_eq_ok_iff {r : TechnicalCreditRequest}
    (hread : read vars = .ok r) :
    (∃ o, r.outline directory = .ok o) ↔ BookingStage.technicalCredit.Supplied directory vars := by
  have hr := read_eq_ok_iff.1 hread
  have hcase := build_required_text_eq_ok_iff.1 hr.case
  have hraw := build_required_text_eq_ok_iff.1 hr.pacs008
  constructor
  · rintro ⟨o, h⟩
    obtain ⟨tenant, id, account, entry, htenant, hid, haccount, hentry, -⟩ := outline_eq_ok_iff.1 h
    exact {
      request := .technicalCredit hread
      tenant := hr.context.exists_resolve_iff.1 ⟨tenant, htenant⟩
      correlationId := .inl (hr.context.exists_correlationId_iff.1 ⟨id, hid⟩)
      technicalAccount _ := (hr.context.exists_technicalAccount_iff hcase htenant).1 ⟨_, haccount⟩
      date := .inl ⟨r.date, build_required_text_eq_ok_iff.1 hr.date⟩
      message := (BookingStage.exists_message_iff hraw).1 ⟨entry, hentry⟩
      original := nofun }
  · intro h
    obtain ⟨tenant, htenant⟩ := hr.context.exists_resolve_iff.2 h.tenant
    obtain ⟨id, hid⟩ := hr.context.exists_correlationId_iff.2 (h.correlationId.resolve_right nofun)
    obtain ⟨account, haccount⟩ :=
      (hr.context.exists_technicalAccount_iff hcase htenant).2 (h.technicalAccount rfl)
    obtain ⟨entry, hentry⟩ := (BookingStage.exists_message_iff hraw).2 h.message
    exact ⟨_, outline_eq_ok_iff.2
      ⟨tenant, id, account, entry, htenant, hid, haccount, hentry, rfl⟩⟩

namespace ConversionCreditRequest

variable {r : ConversionCreditRequest}

theorem exists_creditEntry_iff (hr : r.ReadFrom vars) :
    (∃ entry, r.creditEntry = .ok entry) ↔
      ∃ raw, vars.text? "originalPacs008" = some raw ∧ MessageKind.pacs008.Decodes raw := by
  simp only [creditEntry_eq_ok_iff, text?_of_build_optional hr.pacs008]
  constructor
  · rintro ⟨entry, raw, hraw, hentry⟩
    exact ⟨raw, hraw, Message.exists_entry_eq_ok_iff.1 ⟨entry, hentry⟩⟩
  · rintro ⟨raw, hraw, hdecodes⟩
    obtain ⟨entry, hentry⟩ := Message.exists_entry_eq_ok_iff.2 hdecodes
    exact ⟨entry, raw, hraw, hentry⟩

theorem exists_returnEntry_iff (hr : r.ReadFrom vars) :
    (∃ entry, r.returnEntry = .ok entry) ↔
      (∃ raw, vars.text? "pacs004" = some raw ∧ MessageKind.pacs004.Decodes raw) ∧
        ∀ raw, vars.text? "originalPacs008" = some raw → MessageKind.pacs008.Decodes raw := by
  rw [text?_of_build_optional hr.pacs004, text?_of_build_optional hr.pacs008]
  simp only [returnEntry_eq_ok_iff]
  constructor
  · rintro ⟨entry, raw, returned, hraw, hreturned, hdocument⟩
    refine ⟨⟨raw, hraw, Message.exists_entry_eq_ok_iff.1 ⟨returned, hreturned⟩⟩, ?_⟩
    intro original horiginal
    rcases hdocument with ⟨hnone, -⟩ | ⟨raw', credit, hraw', hcredit, -⟩
    · rw [hnone] at horiginal
      cases horiginal
    · cases hraw'.symm.trans horiginal
      exact Message.exists_entry_eq_ok_iff.1 ⟨credit, hcredit⟩
  · rintro ⟨⟨raw, hraw, hdecodes⟩, horiginal⟩
    obtain ⟨returned, hreturned⟩ := Message.exists_entry_eq_ok_iff.2 hdecodes
    cases hpacs008 : r.pacs008 with
    | none => exact ⟨_, raw, returned, hraw, hreturned, .inl ⟨rfl, rfl⟩⟩
    | some original =>
      obtain ⟨credit, hcredit⟩ := Message.exists_entry_eq_ok_iff.2 (horiginal original hpacs008)
      exact ⟨_, raw, returned, hraw, hreturned, .inr ⟨original, credit, rfl, hcredit, rfl⟩⟩

/-- A return and a credit are decoded from different messages. -/
theorem exists_entry_iff
    (hstage : stage ∈ [.conversionCredit, .conversionRecall, .conversionReturn])
    (hr : r.ReadFrom vars) :
    (∃ entry, (if stage = .conversionReturn then r.returnEntry else r.creditEntry) = .ok entry) ↔
      (∃ raw, vars.text? stage.message.2 = some raw ∧ stage.message.1.Decodes raw) ∧
        (stage = .conversionReturn → ∀ raw, vars.text? "originalPacs008" = some raw →
          MessageKind.pacs008.Decodes raw) := by
  simp only [List.mem_cons, List.not_mem_nil, or_false] at hstage
  rcases hstage with rfl | rfl | rfl
  · simp [exists_creditEntry_iff hr, BookingStage.message]
  · simp [exists_creditEntry_iff hr, BookingStage.message]
  · simp [exists_returnEntry_iff hr, BookingStage.message]

theorem exists_outline_eq_ok_iff
    (hstage : stage ∈ [.conversionCredit, .conversionRecall, .conversionReturn])
    (hread : read vars = .ok r) :
    (∃ o, r.outline directory stage = .ok o) ↔ stage.Supplied directory vars := by
  have hr := read_eq_ok_iff.1 hread
  have hcredit : stage ≠ .technicalCredit ∧ stage ≠ .disposalDeposit := by
    constructor <;> rintro rfl <;> exact absurd hstage (by decide)
  constructor
  · rintro ⟨o, h⟩
    obtain ⟨tenant, id, entry, htenant, hid, hentry, -⟩ := outline_eq_ok_iff.1 h
    obtain ⟨hmessage, horiginal⟩ := (exists_entry_iff hstage hr).1 ⟨entry, hentry⟩
    exact {
      request := .conversionCredit hstage hread
      tenant := hr.context.exists_resolve_iff.1 ⟨tenant, htenant⟩
      correlationId := .inl (hr.context.exists_correlationId_iff.1 ⟨id, hid⟩)
      technicalAccount htechnical := absurd htechnical hcredit.1
      date := .inl ⟨r.date, build_required_text_eq_ok_iff.1 hr.date⟩
      message := hmessage
      original := horiginal }
  · intro h
    obtain ⟨tenant, htenant⟩ := hr.context.exists_resolve_iff.2 h.tenant
    obtain ⟨id, hid⟩ := hr.context.exists_correlationId_iff.2
      (h.correlationId.resolve_right fun hdisposal => hcredit.2 hdisposal.1)
    obtain ⟨entry, hentry⟩ := (exists_entry_iff hstage hr).2 ⟨h.message, h.original⟩
    exact ⟨_, outline_eq_ok_iff.2 ⟨tenant, id, entry, htenant, hid, hentry, rfl⟩⟩

end ConversionCreditRequest

theorem ConversionDebitRequest.exists_outline_eq_ok_iff {r : ConversionDebitRequest}
    (hread : read vars = .ok r) :
    (∃ o, r.outline directory = .ok o) ↔ BookingStage.conversionDebit.Supplied directory vars := by
  have hr := read_eq_ok_iff.1 hread
  have hraw := build_required_text_eq_ok_iff.1 hr.pain001
  constructor
  · rintro ⟨o, h⟩
    obtain ⟨tenant, id, entry, htenant, hid, hentry, -⟩ := outline_eq_ok_iff.1 h
    exact {
      request := .conversionDebit hread
      tenant := hr.context.exists_resolve_iff.1 ⟨tenant, htenant⟩
      correlationId := .inl (hr.context.exists_correlationId_iff.1 ⟨id, hid⟩)
      technicalAccount := nofun
      date := .inl ⟨r.date, build_required_text_eq_ok_iff.1 hr.date⟩
      message := (BookingStage.exists_message_iff hraw).1 ⟨entry, hentry⟩
      original := nofun }
  · intro h
    obtain ⟨tenant, htenant⟩ := hr.context.exists_resolve_iff.2 h.tenant
    obtain ⟨id, hid⟩ := hr.context.exists_correlationId_iff.2 (h.correlationId.resolve_right nofun)
    obtain ⟨entry, hentry⟩ := (BookingStage.exists_message_iff hraw).2 h.message
    exact ⟨_, outline_eq_ok_iff.2 ⟨tenant, id, entry, htenant, hid, hentry, rfl⟩⟩

namespace RevertRequest

variable {r : RevertRequest}

/-- A revert has to be dated unless it is one without a fee. -/
theorem exists_bookingDate_iff (hpattern : ∃ pattern, settings.datePattern = .ok pattern)
    (hstage : stage ∈ [.revert, .revertWithoutFee]) (hr : r.ReadFrom vars) :
    (∃ date, r.bookingDate settings clock stage = .ok date) ↔
      (∃ date, vars.text? "transactionDate" = some date) ∨
        stage ∈ [.revertWithoutFee, .disposalDeposit] := by
  rw [text?_of_build_optional hr.date]
  simp only [List.mem_cons, List.not_mem_nil, or_false] at hstage
  rcases hstage with rfl | rfl
  · cases hdate : r.date <;> simp [bookingDate, hdate, presentVariable, Except.map]
  · simp [bookingDate, exists_dateOrToday_eq_ok hpattern]

theorem exists_outline_eq_ok_iff (hpattern : ∃ pattern, settings.datePattern = .ok pattern)
    (hstage : stage ∈ [.revert, .revertWithoutFee]) (hread : read vars = .ok r) :
    (∃ o, r.outline settings directory clock stage = .ok o) ↔ stage.Supplied directory vars := by
  have hr := read_eq_ok_iff.1 hread
  have hpain001 := build_required_text_eq_ok_iff.1 hr.pain001
  have hmessage : stage.message = (.pain001, "originalPain001") ∧ stage ≠ .technicalCredit ∧
      stage ≠ .conversionReturn ∧ stage ≠ .disposalDeposit := by
    simp only [List.mem_cons, List.not_mem_nil, or_false] at hstage
    rcases hstage with rfl | rfl <;> decide
  obtain ⟨hmessage, htechnical, hreturn, hdisposal⟩ := hmessage
  have hraw : vars.text? stage.message.2 = some r.pain001 := by rw [hmessage, hpain001]
  constructor
  · rintro ⟨o, h⟩
    obtain ⟨tenant, id, date, resolved, entry, htenant, hid, hdate, hentry, -⟩ :=
      outline_eq_ok_iff.1 h
    exact {
      request := .revert hstage hread
      tenant := hr.context.exists_resolve_iff.1 ⟨tenant, htenant⟩
      correlationId := .inl (hr.context.exists_correlationId_iff.1 ⟨id, hid⟩)
      technicalAccount hstage := absurd hstage htechnical
      date := (exists_bookingDate_iff hpattern hstage hr).1 ⟨_, hdate⟩
      message := (BookingStage.exists_message_iff hraw).1 (by rw [hmessage]; exact ⟨entry, hentry⟩)
      original hstage := absurd hstage hreturn }
  · intro h
    obtain ⟨tenant, htenant⟩ := hr.context.exists_resolve_iff.2 h.tenant
    obtain ⟨id, hid⟩ := hr.context.exists_correlationId_iff.2
      (h.correlationId.resolve_right fun hstage => hdisposal hstage.1)
    obtain ⟨⟨date, resolved⟩, hdate⟩ := (exists_bookingDate_iff hpattern hstage hr).2 h.date
    obtain ⟨entry, hentry⟩ := (BookingStage.exists_message_iff hraw).2 h.message
    rw [hmessage] at hentry
    exact ⟨_, outline_eq_ok_iff.2
      ⟨tenant, id, date, resolved, entry, htenant, hid, hdate, hentry, rfl⟩⟩

end RevertRequest

namespace DisposalDepositRequest

variable {r : DisposalDepositRequest}

theorem exists_correlationId_iff (hr : r.ReadFrom vars) :
    (∃ id, r.correlationId = .ok id) ↔
      (∃ id, vars.text? "internalCorrelationId" = some id) ∨
        ∃ raw reference, vars.text? "camt056" = some raw ∧
          CancellationReference.ofMessage raw = .ok reference := by
  rw [text?_of_build_optional hr.context.correlationId,
    build_required_text_eq_ok_iff.1 hr.camt056, correlationId]
  cases hid : r.context.correlationId with
  | some id => simp
  | none =>
    rw [exists_bind_eq_ok_iff]
    simp [mapError_eq_ok_iff]

theorem exists_outline_eq_ok_iff (hpattern : ∃ pattern, settings.datePattern = .ok pattern)
    (hread : read vars = .ok r) :
    (∃ o, r.outline settings directory clock = .ok o) ↔
      BookingStage.disposalDeposit.Supplied directory vars := by
  have hr := read_eq_ok_iff.1 hread
  have hraw := build_required_text_eq_ok_iff.1 hr.camt056
  constructor
  · rintro ⟨o, h⟩
    obtain ⟨tenant, id, resolvedId, date, resolvedDate, entry, htenant, hid, -, hentry, -⟩ :=
      outline_eq_ok_iff.1 h
    exact {
      request := .disposalDeposit hread
      tenant := hr.context.exists_resolve_iff.1 ⟨tenant, htenant⟩
      correlationId := ((exists_correlationId_iff hr).1 ⟨_, hid⟩).imp_right (And.intro rfl)
      technicalAccount := nofun
      date := .inr (by decide)
      message := (BookingStage.exists_message_iff hraw).1 ⟨entry, hentry⟩
      original := nofun }
  · intro h
    obtain ⟨tenant, htenant⟩ := hr.context.exists_resolve_iff.2 h.tenant
    obtain ⟨⟨id, resolvedId⟩, hid⟩ :=
      (exists_correlationId_iff hr).2 (h.correlationId.imp_right And.right)
    obtain ⟨⟨date, resolvedDate⟩, hdate⟩ := exists_dateOrToday_eq_ok hpattern clock r.date
    obtain ⟨entry, hentry⟩ := (BookingStage.exists_message_iff hraw).2 h.message
    exact ⟨_, outline_eq_ok_iff.2 ⟨tenant, id, resolvedId, date, resolvedDate, entry, htenant, hid,
      hdate, hentry, rfl⟩⟩

end DisposalDepositRequest

end Supplied

/-! ## Stages -/

theorem BookingStage.exists_outline_eq_ok_iff {env : Environment} {vars : Variables}
    {stage : BookingStage} (hpattern : ∃ pattern, env.settings.datePattern = .ok pattern) :
    (∃ o, stage.outline env vars = .ok o) ↔ stage.Supplied env.directory vars := by
  simp only [outline_eq_ok_iff]
  constructor
  · rintro ⟨o, ho⟩
    cases ho with
    | technicalCredit hread h =>
      exact (TechnicalCreditRequest.exists_outline_eq_ok_iff hread).1 ⟨o, h⟩
    | conversionCredit hstage hread h =>
      exact (ConversionCreditRequest.exists_outline_eq_ok_iff hstage hread).1 ⟨o, h⟩
    | conversionDebit hread h =>
      exact (ConversionDebitRequest.exists_outline_eq_ok_iff hread).1 ⟨o, h⟩
    | revert hstage hread h =>
      exact (RevertRequest.exists_outline_eq_ok_iff hpattern hstage hread).1 ⟨o, h⟩
    | disposalDeposit hread h =>
      exact (DisposalDepositRequest.exists_outline_eq_ok_iff hpattern hread).1 ⟨o, h⟩
  · intro h
    cases h.request with
    | technicalCredit hread =>
      obtain ⟨o, ho⟩ := (TechnicalCreditRequest.exists_outline_eq_ok_iff hread).2 h
      exact ⟨o, .technicalCredit hread ho⟩
    | conversionCredit hstage hread =>
      obtain ⟨o, ho⟩ := (ConversionCreditRequest.exists_outline_eq_ok_iff hstage hread).2 h
      exact ⟨o, .conversionCredit hstage hread ho⟩
    | conversionDebit hread =>
      obtain ⟨o, ho⟩ := (ConversionDebitRequest.exists_outline_eq_ok_iff hread).2 h
      exact ⟨o, .conversionDebit hread ho⟩
    | revert hstage hread =>
      obtain ⟨o, ho⟩ := (RevertRequest.exists_outline_eq_ok_iff hpattern hstage hread).2 h
      exact ⟨o, .revert hstage hread ho⟩
    | disposalDeposit hread =>
      obtain ⟨o, ho⟩ := (DisposalDepositRequest.exists_outline_eq_ok_iff hpattern hread).2 h
      exact ⟨o, .disposalDeposit hread ho⟩

theorem BookingStage.exists_plan_eq_ok_iff {env : Environment} {vars : Variables}
    {stage : BookingStage} (hpattern : ∃ pattern, env.settings.datePattern = .ok pattern) :
    (∃ plan, stage.plan env vars = .ok plan) ↔ stage.Plannable env.directory vars := by
  rw [plan, exists_bind_eq_ok_iff]
  constructor
  · rintro ⟨o, houtline, hplan⟩
    obtain ⟨context, htenant, hmoves⟩ := moves_of_outline houtline
    refine ⟨(exists_outline_eq_ok_iff hpattern).1 ⟨o, houtline⟩, context, _, _, hmoves,
      (TenantDirectory.resolve_eq_ok htenant).2.1, ?_⟩
    rw [List.forall_mem_map]
    exact Outline.exists_plan_eq_ok_iff.1 hplan
  · intro hplannable
    obtain ⟨o, houtline⟩ := (exists_outline_eq_ok_iff hpattern).2 hplannable.toSupplied
    refine ⟨o, houtline, Outline.exists_plan_eq_ok_iff.2 ?_⟩
    -- The movements for which there are payment types are those of this outline.
    obtain ⟨context, htenant, hmoves⟩ := moves_of_outline houtline
    obtain ⟨context', movements, ids, hmoves', hids, hall⟩ := hplannable.paymentTypes
    obtain ⟨rfl, rfl⟩ := hmoves.unique hmoves'
    cases (TenantDirectory.resolve_eq_ok htenant).2.1.symm.trans hids
    exact fun l hl => hall _ (List.mem_map_of_mem hl)

/-- Settings that are accepted do not stand in the way of any plan, on any day. -/
theorem BookingStage.plans_iff_plannable {text : String} {s : Settings}
    (h : Settings.parse text = .ok s) (clock : Clock) (stage : BookingStage) (vars : Variables) :
    (∃ plan, stage.plan ⟨s.ledger, s.directory, clock⟩ vars = .ok plan) ↔
      stage.Plannable s.directory vars := by
  have hpattern : ∃ pattern,
      (Environment.mk s.ledger s.directory clock).settings.datePattern = .ok pattern :=
    (Settings.ledger_of_parse h).2
  exact exists_plan_eq_ok_iff hpattern

/-- A document without payment types for fees. -/
def Settings.withoutFees : String :=
  "[tenants.t.payment_type_ids]\n" ++
    "\"S.revertInAms.ConversionAccount.WithdrawTransactionAmount\" = 7\n" ++
    "\"S.revertInAms.DisposalAccount.DepositTransactionAmount\" = 9\n"

/-- The variables of a job that undoes a payment without a fee and without a date. -/
def Variables.withoutFee : Variables :=
  .ofList
    [("tenantIdentifier", .text "t"), ("paymentScheme", .text "S"),
     ("internalCorrelationId", .text "id"), ("amount", .text "100.00"),
     ("transactionFeeAmount", .text "0"), ("conversionAccountAmsId", .ofInt64 11),
     ("disposalAccountAmsId", .ofInt64 12), ("originalPain001", .text
       "\x7b\"Document\":\x7b\"PmtInf\":[\x7b\"CdtTrfTxInf\":[\x7b\x7d]\x7d]\x7d\x7d")]

theorem BookingStage.plannable_withoutFee :
    ∃ s, Settings.parse Settings.withoutFees = .ok s ∧
      BookingStage.revertWithoutFee.Plannable s.directory .withoutFee := by
  have hplanned : (Settings.parse Settings.withoutFees).toOption.any fun s =>
      (BookingStage.revertWithoutFee.plan ⟨s.ledger, s.directory, fun _ => "20240131"⟩
        .withoutFee).toOption.isSome := by
    decide +kernel
  obtain ⟨s, hs, hplanned⟩ := (Option.any_eq_true _ _).1 hplanned
  have hs := toOption_eq_some_iff.1 hs
  obtain ⟨plan, hplan⟩ := Option.isSome_iff_exists.1 hplanned
  exact ⟨s, hs, (plans_iff_plannable hs _ _ _).1 ⟨plan, toOption_eq_some_iff.1 hplan⟩⟩

end PaymentBooking
