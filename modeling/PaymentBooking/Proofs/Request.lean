import PaymentBooking.Proofs.Reading.Record
import PaymentBooking.Request

/-! # What requests read

A request is read exactly if each of its fields can be read from the variable of its name. Whatever
else a request reads, its tenant is the text of one variable, and a job without that text has no
request of any stage. Variables of other names change nothing about a request, nor about the fault
for which there is none.
-/

namespace PaymentBooking

open Reading RecordReader

variable {vars : Variables}

/-- A context whose fields are those of the variables. -/
structure BookingContext.ReadFrom (vars : Variables) (c : BookingContext) : Prop where
  tenant : (required "tenantIdentifier" text).build vars = .ok c.tenant
  scheme : (required "paymentScheme" text).build vars = .ok c.scheme
  correlationId : (optional "internalCorrelationId" text).build vars = .ok c.correlationId
  groupId : (optional "transactionGroupId" text).build vars = .ok c.groupId
  purpose : (optional "transactionCategoryPurposeCode" text).build vars = .ok c.purpose

theorem BookingContext.run_eq_ok_iff {c : BookingContext} :
    BookingContext.reader.run vars = .ok c ↔ c.ReadFrom vars := by
  have hplain : BookingContext.reader.IsPlain := by
    apply_rules [isPlain_map, isPlain_seq, isPlain_required, isPlain_optional]
  have hbuild : BookingContext.reader.build vars = .ok c ↔
      ∃ b, BookingContext.reader.build vars = .ok b ∧ b = c := by simp
  rw [hplain.run_eq_ok_iff, hbuild, reader]
  simp only [exists_build_seq_iff, exists_build_map_iff]
  constructor
  · rintro ⟨tenant, htenant, scheme, hscheme, id, hid, group, hgroup, purpose, hpurpose, rfl⟩
    exact ⟨htenant, hscheme, hid, hgroup, hpurpose⟩
  · intro h
    exact ⟨_, h.tenant, _, h.scheme, _, h.correlationId, _, h.groupId, _, h.purpose, rfl⟩

theorem Request.withContext_eq_ok_iff {α : Type} {own : RecordReader (BookingContext → α)}
    (hown : own.IsPlain) {r : α} :
    withContext own vars = .ok r ↔
      ∃ f, own.build vars = .ok f ∧ ∃ c : BookingContext, c.ReadFrom vars ∧ f c = r := by
  simp only [withContext, reported, mapError_eq_ok_iff, bind_eq_ok_iff, hown.run_eq_ok_iff,
    BookingContext.run_eq_ok_iff, Except.ok.injEq]

/-! ## Requests -/

structure TechnicalCreditRequest.ReadFrom (vars : Variables)
    (r : TechnicalCreditRequest) : Prop where
  date : (required "transactionDate" text).build vars = .ok r.date
  amount : (required "amount" Reading.amount).build vars = .ok r.amount
  case : (required "caseIdentifier" text).build vars = .ok r.case
  pacs008 : (required "originalPacs008" text).build vars = .ok r.pacs008
  context : r.context.ReadFrom vars

theorem TechnicalCreditRequest.read_eq_ok_iff {r : TechnicalCreditRequest} :
    read vars = .ok r ↔ r.ReadFrom vars := by
  rw [read, Request.withContext_eq_ok_iff (by
    apply_rules [isPlain_map, isPlain_seq, isPlain_required, isPlain_optional])]
  simp only [exists_build_seq_iff, exists_build_map_iff]
  constructor
  · rintro ⟨date, hdate, amount, hamount, case, hcase, pacs008, hpacs008, context, hcontext, rfl⟩
    exact ⟨hdate, hamount, hcase, hpacs008, hcontext⟩
  · intro h
    exact ⟨_, h.date, _, h.amount, _, h.case, _, h.pacs008, _, h.context, rfl⟩

structure ConversionCreditRequest.ReadFrom (vars : Variables)
    (r : ConversionCreditRequest) : Prop where
  date : (required "transactionDate" text).build vars = .ok r.date
  amount : (required "amount" Reading.amount).build vars = .ok r.amount
  conversionAccount : (required "conversionAccountAmsId" int64).build vars = .ok r.conversionAccount
  pacs008 : (optional "originalPacs008" text).build vars = .ok r.pacs008
  pacs004 : (optional "pacs004" text).build vars = .ok r.pacs004
  creditorIban : (optional "creditorIban" text).build vars = .ok r.creditorIban
  context : r.context.ReadFrom vars

theorem ConversionCreditRequest.read_eq_ok_iff {r : ConversionCreditRequest} :
    read vars = .ok r ↔ r.ReadFrom vars := by
  rw [read, Request.withContext_eq_ok_iff (by
    apply_rules [isPlain_map, isPlain_seq, isPlain_required, isPlain_optional])]
  simp only [exists_build_seq_iff, exists_build_map_iff]
  constructor
  · rintro ⟨date, hdate, amount, hamount, conversionAccount, hconversionAccount, pacs008, hpacs008,
      pacs004, hpacs004, creditorIban, hcreditorIban, context, hcontext, rfl⟩
    exact ⟨hdate, hamount, hconversionAccount, hpacs008, hpacs004, hcreditorIban, hcontext⟩
  · intro h
    exact ⟨_, h.date, _, h.amount, _, h.conversionAccount, _, h.pacs008, _, h.pacs004, _,
      h.creditorIban, _, h.context, rfl⟩

structure ConversionDebitRequest.ReadFrom (vars : Variables)
    (r : ConversionDebitRequest) : Prop where
  date : (required "transactionDate" text).build vars = .ok r.date
  amount : (required "amount" Reading.amount).build vars = .ok r.amount
  fee : (required "transactionFeeAmount" Reading.fee).build vars = .ok r.fee
  feePurpose : (optional "transactionFeeCategoryPurposeCode" text).build vars = .ok r.feePurpose
  conversionAccount : (required "conversionAccountAmsId" int64).build vars = .ok r.conversionAccount
  pain001 : (required "originalPain001" text).build vars = .ok r.pain001
  context : r.context.ReadFrom vars

theorem ConversionDebitRequest.read_eq_ok_iff {r : ConversionDebitRequest} :
    read vars = .ok r ↔ r.ReadFrom vars := by
  rw [read, Request.withContext_eq_ok_iff (by
    apply_rules [isPlain_map, isPlain_seq, isPlain_required, isPlain_optional])]
  simp only [exists_build_seq_iff, exists_build_map_iff]
  constructor
  · rintro ⟨date, hdate, amount, hamount, fee, hfee, feePurpose, hfeePurpose, conversionAccount,
      hconversionAccount, pain001, hpain001, context, hcontext, rfl⟩
    exact ⟨hdate, hamount, hfee, hfeePurpose, hconversionAccount, hpain001, hcontext⟩
  · intro h
    exact ⟨_, h.date, _, h.amount, _, h.fee, _, h.feePurpose, _, h.conversionAccount, _, h.pain001,
      _, h.context, rfl⟩

structure RevertRequest.ReadFrom (vars : Variables) (r : RevertRequest) : Prop where
  date : (optional "transactionDate" text).build vars = .ok r.date
  amount : (required "amount" Reading.amount).build vars = .ok r.amount
  fee : (required "transactionFeeAmount" Reading.fee).build vars = .ok r.fee
  feePurpose : (optional "transactionFeeCategoryPurposeCode" text).build vars = .ok r.feePurpose
  conversionAccount : (required "conversionAccountAmsId" int64).build vars = .ok r.conversionAccount
  disposalAccount : (required "disposalAccountAmsId" int64).build vars = .ok r.disposalAccount
  pain001 : (required "originalPain001" text).build vars = .ok r.pain001
  debtorIban : (optional "debtorIban" text).build vars = .ok r.debtorIban
  context : r.context.ReadFrom vars

theorem RevertRequest.read_eq_ok_iff {r : RevertRequest} :
    read vars = .ok r ↔ r.ReadFrom vars := by
  rw [read, Request.withContext_eq_ok_iff (by
    apply_rules [isPlain_map, isPlain_seq, isPlain_required, isPlain_optional])]
  simp only [exists_build_seq_iff, exists_build_map_iff]
  constructor
  · rintro ⟨date, hdate, amount, hamount, fee, hfee, feePurpose, hfeePurpose, conversionAccount,
      hconversionAccount, disposalAccount, hdisposalAccount, pain001, hpain001, debtorIban,
      hdebtorIban, context, hcontext, rfl⟩
    exact ⟨hdate, hamount, hfee, hfeePurpose, hconversionAccount, hdisposalAccount, hpain001,
      hdebtorIban, hcontext⟩
  · intro h
    exact ⟨_, h.date, _, h.amount, _, h.fee, _, h.feePurpose, _, h.conversionAccount, _,
      h.disposalAccount, _, h.pain001, _, h.debtorIban, _, h.context, rfl⟩

structure DisposalDepositRequest.ReadFrom (vars : Variables)
    (r : DisposalDepositRequest) : Prop where
  date : (optional "transactionDate" text).build vars = .ok r.date
  amount : (required "amount" Reading.amount).build vars = .ok r.amount
  conversionAccount : (required "conversionAccountAmsId" int64).build vars = .ok r.conversionAccount
  disposalAccount : (required "disposalAccountAmsId" int64).build vars = .ok r.disposalAccount
  camt056 : (required "camt056" text).build vars = .ok r.camt056
  debtorIban : (optional "debtorIban" text).build vars = .ok r.debtorIban
  context : r.context.ReadFrom vars

theorem DisposalDepositRequest.read_eq_ok_iff {r : DisposalDepositRequest} :
    read vars = .ok r ↔ r.ReadFrom vars := by
  rw [read, Request.withContext_eq_ok_iff (by
    apply_rules [isPlain_map, isPlain_seq, isPlain_required, isPlain_optional])]
  simp only [exists_build_seq_iff, exists_build_map_iff]
  constructor
  · rintro ⟨date, hdate, amount, hamount, conversionAccount, hconversionAccount, disposalAccount,
      hdisposalAccount, camt056, hcamt056, debtorIban, hdebtorIban, context, hcontext, rfl⟩
    exact ⟨hdate, hamount, hconversionAccount, hdisposalAccount, hcamt056, hdebtorIban, hcontext⟩
  · intro h
    exact ⟨_, h.date, _, h.amount, _, h.conversionAccount, _, h.disposalAccount, _, h.camt056, _,
      h.debtorIban, _, h.context, rfl⟩

/-! ## Tenants -/

theorem BookingContext.ReadFrom.find?_tenant {c : BookingContext} (h : c.ReadFrom vars) :
    vars.find? "tenantIdentifier" = some (.text c.tenant) :=
  Variables.text?_eq_some_iff.1 (build_required_text_eq_ok_iff.1 h.tenant)

theorem TechnicalCreditRequest.find?_tenant {r : TechnicalCreditRequest} (h : read vars = .ok r) :
    vars.find? "tenantIdentifier" = some (.text r.context.tenant) :=
  (read_eq_ok_iff.1 h).context.find?_tenant

theorem ConversionCreditRequest.find?_tenant {r : ConversionCreditRequest} (h : read vars = .ok r) :
    vars.find? "tenantIdentifier" = some (.text r.context.tenant) :=
  (read_eq_ok_iff.1 h).context.find?_tenant

theorem ConversionDebitRequest.find?_tenant {r : ConversionDebitRequest} (h : read vars = .ok r) :
    vars.find? "tenantIdentifier" = some (.text r.context.tenant) :=
  (read_eq_ok_iff.1 h).context.find?_tenant

theorem RevertRequest.find?_tenant {r : RevertRequest} (h : read vars = .ok r) :
    vars.find? "tenantIdentifier" = some (.text r.context.tenant) :=
  (read_eq_ok_iff.1 h).context.find?_tenant

theorem DisposalDepositRequest.find?_tenant {r : DisposalDepositRequest} (h : read vars = .ok r) :
    vars.find? "tenantIdentifier" = some (.text r.context.tenant) :=
  (read_eq_ok_iff.1 h).context.find?_tenant

theorem AccountLookupRequest.find?_tenant {r : AccountLookupRequest} (h : read vars = .ok r) :
    vars.find? "tenantIdentifier" = some (.text r.tenant) := by
  have hbuild := build_of_run (mapError_eq_ok_iff.1 h)
  obtain ⟨tenant, htenant, iban, -, rfl⟩ := exists_build_map_iff.1
    (exists_build_seq_iff (P := (· = r)) |>.1 ⟨r, hbuild, rfl⟩)
  exact Variables.text?_eq_some_iff.1 (build_required_text_eq_ok_iff.1 htenant)

/-- The IBAN of a lookup is the text of one variable or the other. -/
theorem AccountLookupRequest.find?_iban {r : AccountLookupRequest} (h : read vars = .ok r) :
    vars.find? "iban" = some (.text r.iban) ∨ vars.find? "valueFilter" = some (.text r.iban) := by
  have hbuild := build_of_run (mapError_eq_ok_iff.1 h)
  obtain ⟨tenant, -, iban, hiban, rfl⟩ := exists_build_map_iff.1
    (exists_build_seq_iff (P := (· = r)) |>.1 ⟨r, hbuild, rfl⟩)
  cases hown : vars.find? "iban" with
  | some value => cases value <;> simp_all [requiredAs, lookup?, text]
  | none =>
    cases hfilter : vars.find? "valueFilter" with
    | none => simp [requiredAs, lookup?, hown, hfilter] at hiban
    | some value => cases value <;> simp_all [requiredAs, lookup?, text]

/-! ## Variables -/

def BookingContext.names : List String :=
  ["tenantIdentifier", "paymentScheme", "internalCorrelationId", "transactionGroupId",
   "transactionCategoryPurposeCode"]

def TechnicalCreditRequest.names : List String :=
  ["transactionDate", "amount", "caseIdentifier", "originalPacs008"] ++ BookingContext.names

def ConversionCreditRequest.names : List String :=
  ["transactionDate", "amount", "conversionAccountAmsId", "originalPacs008", "pacs004",
   "creditorIban"] ++ BookingContext.names

def ConversionDebitRequest.names : List String :=
  ["transactionDate", "amount", "transactionFeeAmount", "transactionFeeCategoryPurposeCode",
   "conversionAccountAmsId", "originalPain001"] ++ BookingContext.names

def RevertRequest.names : List String :=
  ["transactionDate", "amount", "transactionFeeAmount", "transactionFeeCategoryPurposeCode",
   "conversionAccountAmsId", "disposalAccountAmsId", "originalPain001", "debtorIban"] ++
    BookingContext.names

def DisposalDepositRequest.names : List String :=
  ["transactionDate", "amount", "conversionAccountAmsId", "disposalAccountAmsId", "camt056",
   "debtorIban"] ++ BookingContext.names

/-- The tenant, and the IBAN under its two names. -/
def AccountLookupRequest.names : List String := ["tenantIdentifier", "iban", "valueFilter"]

section Congr

variable {vars' : Variables}

/-- A request is read from its own variables and those of its context; others are passed over. -/
theorem Request.withContext_congr {α : Type} {own : RecordReader (BookingContext → α)}
    {names : List String} (hown : own.DependsOn names)
    (h : Dict.AgreeOn (names ++ BookingContext.names) vars' vars) :
    withContext own vars' = withContext own vars := by
  have hcontext : BookingContext.reader.DependsOn BookingContext.names := by
    apply_rules [dependsOn_map, dependsOn_seq, dependsOn_required, dependsOn_optional] <;> decide
  rw [withContext, withContext, hown.run_congr fun n hn => h n (List.mem_append_left _ hn),
    hcontext.run_congr fun n hn => h n (List.mem_append_right _ hn)]

theorem TechnicalCreditRequest.read_congr (h : Dict.AgreeOn names vars' vars) :
    read vars' = read vars := by
  refine Request.withContext_congr ?_ h
  apply_rules [dependsOn_map, dependsOn_seq, dependsOn_required] <;> decide

theorem ConversionCreditRequest.read_congr (h : Dict.AgreeOn names vars' vars) :
    read vars' = read vars := by
  refine Request.withContext_congr ?_ h
  apply_rules [dependsOn_map, dependsOn_seq, dependsOn_required, dependsOn_optional] <;> decide

theorem ConversionDebitRequest.read_congr (h : Dict.AgreeOn names vars' vars) :
    read vars' = read vars := by
  refine Request.withContext_congr ?_ h
  apply_rules [dependsOn_map, dependsOn_seq, dependsOn_required, dependsOn_optional] <;> decide

theorem RevertRequest.read_congr (h : Dict.AgreeOn names vars' vars) :
    read vars' = read vars := by
  refine Request.withContext_congr ?_ h
  apply_rules [dependsOn_map, dependsOn_seq, dependsOn_required, dependsOn_optional] <;> decide

theorem DisposalDepositRequest.read_congr (h : Dict.AgreeOn names vars' vars) :
    read vars' = read vars := by
  refine Request.withContext_congr ?_ h
  apply_rules [dependsOn_map, dependsOn_seq, dependsOn_required, dependsOn_optional] <;> decide

theorem AccountLookupRequest.read_congr (h : Dict.AgreeOn names vars' vars) :
    read vars' = read vars := by
  rw [read, read, DependsOn.run_congr _ h]
  apply_rules [dependsOn_map, dependsOn_seq, dependsOn_required, dependsOn_requiredAs] <;> decide

end Congr

end PaymentBooking
