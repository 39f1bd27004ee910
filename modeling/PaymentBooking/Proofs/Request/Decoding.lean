import PaymentBooking.Proofs.Reading.Reader
import PaymentBooking.Proofs.Request

/-! # How requests are decoded

Every request declares fields of its own, and all that book declare those of their context. A
request is decoded from exactly the variables by which each of these fields holds something, and
holds just that. Of other variables one fault is reported, and a fault of the context only if the
request's own fields have none.
-/

namespace PaymentBooking

open Reading RecordReader

variable {vars : Variables}

/-! ## Declared fields -/

def BookingContext.declarations : List Declaration :=
  [.required "tenantIdentifier" .text, .required "paymentScheme" .text,
    .optional "internalCorrelationId" .text, .optional "transactionGroupId" .text,
    .optional "transactionCategoryPurposeCode" .text]

def BookingContext.values (c : BookingContext) : List (Option FieldValue) :=
  [some (.text c.tenant), some (.text c.scheme), c.correlationId.map .text, c.groupId.map .text,
    c.purpose.map .text]

def TechnicalCreditRequest.declarations : List Declaration :=
  [.required "transactionDate" .text, .required "amount" .amount,
    .required "caseIdentifier" .text, .required "originalPacs008" .text]

def TechnicalCreditRequest.values (r : TechnicalCreditRequest) : List (Option FieldValue) :=
  [some (.text r.date), some (.amount r.amount), some (.text r.case), some (.text r.pacs008)] ++
    r.context.values

def ConversionCreditRequest.declarations : List Declaration :=
  [.required "transactionDate" .text, .required "amount" .amount,
    .required "conversionAccountAmsId" .account, .optional "originalPacs008" .text,
    .optional "pacs004" .text, .optional "creditorIban" .text]

def ConversionCreditRequest.values (r : ConversionCreditRequest) : List (Option FieldValue) :=
  [some (.text r.date), some (.amount r.amount), some (.account r.conversionAccount),
    r.pacs008.map .text, r.pacs004.map .text, r.creditorIban.map .text] ++ r.context.values

def ConversionDebitRequest.declarations : List Declaration :=
  [.required "transactionDate" .text, .required "amount" .amount,
    .required "transactionFeeAmount" .fee, .optional "transactionFeeCategoryPurposeCode" .text,
    .required "conversionAccountAmsId" .account, .required "originalPain001" .text]

def ConversionDebitRequest.values (r : ConversionDebitRequest) : List (Option FieldValue) :=
  [some (.text r.date), some (.amount r.amount), some (.fee r.fee), r.feePurpose.map .text,
    some (.account r.conversionAccount), some (.text r.pain001)] ++ r.context.values

def RevertRequest.declarations : List Declaration :=
  [.optional "transactionDate" .text, .required "amount" .amount,
    .required "transactionFeeAmount" .fee, .optional "transactionFeeCategoryPurposeCode" .text,
    .required "conversionAccountAmsId" .account, .required "disposalAccountAmsId" .account,
    .required "originalPain001" .text, .optional "debtorIban" .text]

def RevertRequest.values (r : RevertRequest) : List (Option FieldValue) :=
  [r.date.map .text, some (.amount r.amount), some (.fee r.fee), r.feePurpose.map .text,
    some (.account r.conversionAccount), some (.account r.disposalAccount), some (.text r.pain001),
    r.debtorIban.map .text] ++ r.context.values

def DisposalDepositRequest.declarations : List Declaration :=
  [.optional "transactionDate" .text, .required "amount" .amount,
    .required "conversionAccountAmsId" .account, .required "disposalAccountAmsId" .account,
    .required "camt056" .text, .optional "debtorIban" .text]

def DisposalDepositRequest.values (r : DisposalDepositRequest) : List (Option FieldValue) :=
  [r.date.map .text, some (.amount r.amount), some (.account r.conversionAccount),
    some (.account r.disposalAccount), some (.text r.camt056), r.debtorIban.map .text] ++
    r.context.values

def AccountLookupRequest.declarations : List Declaration :=
  [.required "tenantIdentifier" .text, ⟨"iban", ["valueFilter"], .text, false⟩]

def AccountLookupRequest.values (r : AccountLookupRequest) : List (Option FieldValue) :=
  [some (.text r.tenant), some (.text r.iban)]

/-! ## Decoders -/

/-- The fault that is reported of variables: the first of the request's own fields, and if these
have none the first of its context. -/
def Request.Reports (vars : Variables) (own context : List Declaration) (f : Fault) : Prop :=
  FirstFault vars own f ∨ Fits vars own ∧ FirstFault vars context f

/-- A decoder of requests with fields of their own and of a context. -/
structure Request.Decodes {α : Type} (read : Variables → Except Error α)
    (own context : List Declaration) (values : α → List (Option FieldValue)) : Prop where
  accepts : ∀ vars, (∃ r, read vars = .ok r) ↔ Fits vars (own ++ context)
  holds : ∀ vars r, read vars = .ok r →
    List.Forall₂ (Declaration.Holds vars) (own ++ context) (values r)
  reports : ∀ vars e, read vars = .error e ↔
    ∃ f, e = .invalidVariables f ∧ Request.Reports vars own context f

/-! ### Contexts -/

theorem BookingContext.declares_reader :
    BookingContext.reader.Declares BookingContext.declarations :=
  (declares_map (isField_required readsType_text _).declares).required readsType_text _
    |>.optional readsType_text _ |>.optional readsType_text _ |>.optional readsType_text _

section Holds

variable {α : Type} {read : ValueReader α} {t : FieldType} {wrap : α → FieldValue} {name : String}
  {ds : List Declaration} {xs : List (Option FieldValue)}

theorem Reading.Fits.required (ht : ReadsType read t wrap) {a : α}
    (ha : (RecordReader.required name read).build vars = .ok a)
    (hrest : Fits vars ds → List.Forall₂ (Declaration.Holds vars) ds xs)
    (hfits : Fits vars (.required name t :: ds)) :
    List.Forall₂ (Declaration.Holds vars) (.required name t :: ds) (some (wrap a) :: xs) := by
  obtain ⟨hd, hds⟩ := List.forall_mem_cons.1 hfits
  exact .cons ((isField_required ht name).holds_of_build hd ha) (hrest hds)

theorem Reading.Fits.optional (ht : ReadsType read t wrap) {o : Option α}
    (ho : (RecordReader.optional name read).build vars = .ok o)
    (hrest : Fits vars ds → List.Forall₂ (Declaration.Holds vars) ds xs)
    (hfits : Fits vars (.optional name t :: ds)) :
    List.Forall₂ (Declaration.Holds vars) (.optional name t :: ds) (o.map wrap :: xs) := by
  obtain ⟨hd, hds⟩ := List.forall_mem_cons.1 hfits
  exact .cons ((isField_optional ht name).holds_of_build hd ho) (hrest hds)

end Holds

theorem BookingContext.ReadFrom.holds {c : BookingContext} (h : c.ReadFrom vars) :
    Fits vars BookingContext.declarations →
      List.Forall₂ (Declaration.Holds vars) BookingContext.declarations c.values :=
  Fits.required readsType_text h.tenant <| Fits.required readsType_text h.scheme <|
    Fits.optional readsType_text h.correlationId <| Fits.optional readsType_text h.groupId <|
    Fits.optional readsType_text h.purpose fun _ => .nil

theorem Request.decodes_withContext {α : Type} {own : RecordReader (BookingContext → α)}
    {ds : List Declaration} {values : α → List (Option FieldValue)} (hown : own.Declares ds)
    (hdistinct : Distinct ds)
    (hholds : ∀ {vars r}, withContext own vars = .ok r →
      Fits vars (ds ++ BookingContext.declarations) →
      List.Forall₂ (Declaration.Holds vars) (ds ++ BookingContext.declarations) (values r)) :
    Decodes (withContext own) ds BookingContext.declarations values := by
  have hcontext := BookingContext.declares_reader
  have hcontextDistinct : Distinct BookingContext.declarations := by decide
  have haccepts : ∀ vars, (∃ r, withContext own vars = .ok r) ↔
      Fits vars (ds ++ BookingContext.declarations) := by
    intro vars
    rw [fits_append, ← hown.exists_run_iff hdistinct, ← hcontext.exists_run_iff hcontextDistinct]
    simp only [withContext, reported, mapError_eq_ok_iff, bind_eq_ok_iff, Except.ok.injEq]
    constructor
    · rintro ⟨_, g, hg, c, hc, -⟩
      exact ⟨⟨g, hg⟩, c, hc⟩
    · rintro ⟨⟨g, hg⟩, c, hc⟩
      exact ⟨_, g, hg, c, hc, rfl⟩
  refine ⟨haccepts, fun vars r hr => hholds hr ((haccepts vars).1 ⟨r, hr⟩), fun vars e => ?_⟩
  rw [withContext, reported, mapError_eq_error_iff]
  refine exists_congr fun f => ?_
  rw [and_comm, bind_eq_error_iff, hown.run_eq_error_iff hdistinct, eq_comm (a := e)]
  refine and_congr_right fun _ => or_congr_right ?_
  rw [← hown.exists_run_iff hdistinct, ← hcontext.run_eq_error_iff hcontextDistinct]
  simp [bind_eq_error_iff]

/-! ## Requests -/

theorem TechnicalCreditRequest.decodes :
    Request.Decodes read declarations BookingContext.declarations values := by
  refine Request.decodes_withContext ?_ (by decide) fun hread => ?_
  · exact (declares_map (isField_required readsType_text _).declares).required readsType_amount _
      |>.required readsType_text _ |>.required readsType_text _
  · have h := read_eq_ok_iff.1 hread
    exact Fits.required readsType_text h.date <| Fits.required readsType_amount h.amount <|
      Fits.required readsType_text h.case <| Fits.required readsType_text h.pacs008 <|
      h.context.holds

theorem ConversionCreditRequest.decodes :
    Request.Decodes read declarations BookingContext.declarations values := by
  refine Request.decodes_withContext ?_ (by decide) fun hread => ?_
  · exact (declares_map (isField_required readsType_text _).declares).required readsType_amount _
      |>.required readsType_int64 _ |>.optional readsType_text _ |>.optional readsType_text _
      |>.optional readsType_text _
  · have h := read_eq_ok_iff.1 hread
    exact Fits.required readsType_text h.date <| Fits.required readsType_amount h.amount <|
      Fits.required readsType_int64 h.conversionAccount <|
      Fits.optional readsType_text h.pacs008 <| Fits.optional readsType_text h.pacs004 <|
      Fits.optional readsType_text h.creditorIban <| h.context.holds

theorem ConversionDebitRequest.decodes :
    Request.Decodes read declarations BookingContext.declarations values := by
  refine Request.decodes_withContext ?_ (by decide) fun hread => ?_
  · exact (declares_map (isField_required readsType_text _).declares).required readsType_amount _
      |>.required readsType_fee _ |>.optional readsType_text _ |>.required readsType_int64 _
      |>.required readsType_text _
  · have h := read_eq_ok_iff.1 hread
    exact Fits.required readsType_text h.date <| Fits.required readsType_amount h.amount <|
      Fits.required readsType_fee h.fee <| Fits.optional readsType_text h.feePurpose <|
      Fits.required readsType_int64 h.conversionAccount <|
      Fits.required readsType_text h.pain001 <| h.context.holds

theorem RevertRequest.decodes :
    Request.Decodes read declarations BookingContext.declarations values := by
  refine Request.decodes_withContext ?_ (by decide) fun hread => ?_
  · exact (declares_map (isField_optional readsType_text _).declares).required readsType_amount _
      |>.required readsType_fee _ |>.optional readsType_text _ |>.required readsType_int64 _
      |>.required readsType_int64 _ |>.required readsType_text _ |>.optional readsType_text _
  · have h := read_eq_ok_iff.1 hread
    exact Fits.optional readsType_text h.date <| Fits.required readsType_amount h.amount <|
      Fits.required readsType_fee h.fee <| Fits.optional readsType_text h.feePurpose <|
      Fits.required readsType_int64 h.conversionAccount <|
      Fits.required readsType_int64 h.disposalAccount <|
      Fits.required readsType_text h.pain001 <|
      Fits.optional readsType_text h.debtorIban <| h.context.holds

theorem DisposalDepositRequest.decodes :
    Request.Decodes read declarations BookingContext.declarations values := by
  refine Request.decodes_withContext ?_ (by decide) fun hread => ?_
  · exact (declares_map (isField_optional readsType_text _).declares).required readsType_amount _
      |>.required readsType_int64 _ |>.required readsType_int64 _ |>.required readsType_text _
      |>.optional readsType_text _
  · have h := read_eq_ok_iff.1 hread
    exact Fits.optional readsType_text h.date <| Fits.required readsType_amount h.amount <|
      Fits.required readsType_int64 h.conversionAccount <|
      Fits.required readsType_int64 h.disposalAccount <|
      Fits.required readsType_text h.camt056 <|
      Fits.optional readsType_text h.debtorIban <| h.context.holds

theorem AccountLookupRequest.decodes : Request.Decodes read declarations [] values := by
  have hiban := isField_requiredAs readsType_text "iban" ["valueFilter"]
  have hdeclares : Declares (AccountLookupRequest.mk <$> required "tenantIdentifier" text <*>
      requiredAs "iban" ["valueFilter"] text) declarations :=
    declares_seq (declares_map (isField_required readsType_text _).declares) hiban.declares
  have hdistinct : Distinct declarations := by decide
  have haccepts : ∀ vars, (∃ r, read vars = .ok r) ↔ Fits vars declarations := by
    intro vars
    simp only [read, Request.reported, mapError_eq_ok_iff]
    exact hdeclares.exists_run_iff hdistinct
  refine ⟨haccepts, fun vars r hr => ?_, fun vars e => ?_⟩
  · have hfits := (haccepts vars).1 ⟨r, hr⟩
    obtain ⟨tenant, htenant, iban, hbuild, rfl⟩ := exists_build_map_iff.1
      (exists_build_seq_iff (P := (· = r)) |>.1 ⟨r, build_of_run (mapError_eq_ok_iff.1 hr), rfl⟩)
    refine Fits.required readsType_text htenant (fun hfits => ?_) hfits
    exact .cons (hiban.holds_of_build (hfits _ List.mem_cons_self) hbuild) .nil
  · rw [read, Request.reported, mapError_eq_error_iff]
    refine exists_congr fun f => ?_
    rw [and_comm, hdeclares.run_eq_error_iff hdistinct, eq_comm (a := e)]
    have hnone : ¬FirstFault vars [] f := fits_nil.not_firstFault
    simp [Request.Reports, hnone]

/-- Each of the six requests is decoded from the variables that fit its fields, and of others the
first fault is reported. -/
theorem requests_decode :
    Request.Decodes TechnicalCreditRequest.read TechnicalCreditRequest.declarations
      BookingContext.declarations TechnicalCreditRequest.values ∧
    Request.Decodes ConversionCreditRequest.read ConversionCreditRequest.declarations
      BookingContext.declarations ConversionCreditRequest.values ∧
    Request.Decodes ConversionDebitRequest.read ConversionDebitRequest.declarations
      BookingContext.declarations ConversionDebitRequest.values ∧
    Request.Decodes RevertRequest.read RevertRequest.declarations
      BookingContext.declarations RevertRequest.values ∧
    Request.Decodes AccountLookupRequest.read AccountLookupRequest.declarations []
      AccountLookupRequest.values ∧
    Request.Decodes DisposalDepositRequest.read DisposalDepositRequest.declarations
      BookingContext.declarations DisposalDepositRequest.values :=
  ⟨TechnicalCreditRequest.decodes, ConversionCreditRequest.decodes, ConversionDebitRequest.decodes,
    RevertRequest.decodes, AccountLookupRequest.decodes, DisposalDepositRequest.decodes⟩

-- A missing field of the request counts before a bad variable of its context.
example : RevertRequest.read (Dict.ofList [("paymentScheme", .bool true), ("amount", .text "1")]) =
    .error (.invalidVariables (.missingField "transactionFeeAmount")) := rfl

end PaymentBooking
