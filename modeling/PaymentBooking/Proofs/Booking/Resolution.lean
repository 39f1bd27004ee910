import PaymentBooking.Proofs.Booking.Description
import PaymentBooking.Proofs.Request

/-! # What a booking works out

The correlation id and the date of a booking are those of the job, or are worked out and then
reported back under the names under which the job would have given them. The technical account of a
credit is always reported back. A booking reports nothing else.
-/

namespace PaymentBooking

open Reading.RecordReader

/-- A value that is given under a name, or else is worked out and reported under that name. -/
inductive WorkedOut (name : String) : Option String → String → Variables → Prop
  | given (value : String) : WorkedOut name (some value) value .empty
  | missing (value : String) : WorkedOut name none value (.ofList [(name, .text value)])

namespace WorkedOut

variable {name value : String} {given : Option String} {vars resolved : Variables}

theorem find?_of_ne (h : WorkedOut name given value resolved) {k : String} (hk : k ≠ name) :
    resolved.find? k = none := by
  cases h with
  | given value => rfl
  | missing value => rw [Dict.find?_ofList_singleton, if_neg (by simpa using hk)]

theorem find?_self (h : WorkedOut name given value resolved) (hgiven : vars.text? name = given) :
    (resolved.find? name).or (vars.find? name) = some (.text value) := by
  cases h with
  | given value => exact Variables.text?_eq_some_iff.1 hgiven
  | missing value => rw [Dict.find?_ofList_singleton, if_pos (by simp), Option.some_or]

theorem of_build_required (h : (required name Reading.text).build vars = .ok value) :
    WorkedOut name (vars.text? name) value .empty := by
  rw [build_required_text_eq_ok_iff.1 h]
  exact .given value

theorem of_build_optional (hbuild : (optional name Reading.text).build vars = .ok given)
    (h : WorkedOut name given value resolved) :
    WorkedOut name (vars.text? name) value resolved := by
  rwa [text?_of_build_optional hbuild]

end WorkedOut

theorem BookingContext.ReadFrom.workedOut_correlationId {c : BookingContext} {vars : Variables}
    {id : String} (hc : c.ReadFrom vars) (hid : c.correlationId = some id) :
    WorkedOut "internalCorrelationId" (vars.text? "internalCorrelationId") id .empty := by
  apply WorkedOut.of_build_optional hc.correlationId
  rw [hid]
  exact .given id

theorem dateOrToday_eq_ok {settings : LedgerSettings} {clock : Clock} {given : Option String}
    {date : String} {resolved : Variables}
    (h : dateOrToday settings clock given = .ok (date, resolved)) :
    WorkedOut "transactionDate" given date resolved := by
  cases given with
  | some given =>
    cases h
    exact .given _
  | none =>
    obtain ⟨today, -, h⟩ := bind_eq_ok_iff.1 h
    cases h
    exact .missing date

/-- The date of a revert is given, but for the one without a fee. -/
theorem RevertRequest.bookingDate_eq_ok {settings : LedgerSettings} {clock : Clock}
    {stage : BookingStage} {r : RevertRequest} {date : String} {resolved : Variables}
    (h : r.bookingDate settings clock stage = .ok (date, resolved)) :
    WorkedOut "transactionDate" r.date date resolved := by
  rw [bookingDate] at h
  split at h
  · exact dateOrToday_eq_ok h
  · obtain ⟨given, hgiven, h⟩ := map_eq_ok_iff.1 h
    cases h
    rw [presentVariable_eq_ok_iff.1 hgiven]
    exact .given date

theorem DisposalDepositRequest.workedOut_correlationId {r : DisposalDepositRequest} {id : String}
    {resolved : Variables} (h : r.correlationId = .ok (id, resolved)) :
    WorkedOut "internalCorrelationId" r.context.correlationId id resolved := by
  rw [correlationId] at h
  split at h
  · rename_i given hgiven
    cases h
    rw [hgiven]
    exact .given id
  · rename_i hgiven
    obtain ⟨reference, -, h⟩ := bind_eq_ok_iff.1 h
    cases h
    rw [hgiven]
    exact .missing _

/-- What a job reports that has made a booking: the correlation id and the date of the booking, and
the account of a credit off a technical account. All other variables are as they were. -/
structure Outline.ReportedIn (o : Outline) (vars output : Variables) : Prop where
  correlationId : output.find? "internalCorrelationId" = some (.text o.statement.correlationId)
  date : output.find? "transactionDate" = some (.text o.date)
  account : o.stage = .technicalCredit →
    ∀ l ∈ o.legs, output.find? "technicalAccountAmsId" = some (.ofInt64 l.account)
  others : ∀ name, name ≠ "internalCorrelationId" → name ≠ "transactionDate" →
    (o.stage = .technicalCredit → name ≠ "technicalAccountAmsId") →
      output.find? name = vars.find? name

section Reported

variable {stage : BookingStage} {settings : LedgerSettings} {directory : TenantDirectory}
  {clock : Clock} {vars : Variables} {o : Outline}

theorem Outline.reportedIn_of_workedOut {resolvedId resolvedDate : Variables}
    (hid : WorkedOut "internalCorrelationId" (vars.text? "internalCorrelationId")
      o.statement.correlationId resolvedId)
    (hdate : WorkedOut "transactionDate" (vars.text? "transactionDate") o.date resolvedDate)
    (hresolved : o.resolved = resolvedId.insertMany resolvedDate.toList)
    (hstage : o.stage ≠ .technicalCredit) :
    o.ReportedIn vars (vars.insertMany o.resolved.toList) := by
  -- The date is put behind the id, and neither is found under the name of the other.
  have hfind : ∀ k, (vars.insertMany o.resolved.toList).find? k =
      ((resolvedDate.find? k).or (resolvedId.find? k)).or (vars.find? k) := by
    intro k
    rw [Dict.find?_insertMany_toList, hresolved, Dict.find?_insertMany_toList]
  refine ⟨?_, ?_, fun h => absurd h hstage, fun name hneId hneDate _ => ?_⟩
  · rw [hfind, hdate.find?_of_ne (by decide)]
    exact hid.find?_self rfl
  · rw [hfind, hid.find?_of_ne (by decide), Option.or_none]
    exact hdate.find?_self rfl
  · rw [hfind, hid.find?_of_ne hneId, hdate.find?_of_ne hneDate]
    rfl

theorem TechnicalCreditRequest.reportedIn_of_outline {r : TechnicalCreditRequest}
    (hread : read vars = .ok r) (h : r.outline directory = .ok o) :
    o.ReportedIn vars (vars.insertMany o.resolved.toList) := by
  have hr := read_eq_ok_iff.1 hread
  obtain ⟨tenant, id, account, entry, -, hid, -, -, rfl⟩ := outline_eq_ok_iff.1 h
  have hfind : ∀ k, (vars.insertMany (Dict.ofList
      [("technicalAccountAmsId", Json.ofInt64 account)]).toList).find? k =
      if compare k "technicalAccountAmsId" = .eq then some (.ofInt64 account)
      else vars.find? k := by
    intro k
    rw [Dict.find?_insertMany_toList, Dict.find?_ofList_singleton]
    split <;> rfl
  refine ⟨?_, ?_, fun _ l hl => ?_, fun name _ _ hne => ?_⟩
  · rw [hfind, if_neg (by decide)]
    exact Variables.text?_eq_some_iff.1
      ((text?_of_build_optional hr.context.correlationId).trans hid)
  · rw [hfind, if_neg (by decide)]
    exact Variables.text?_eq_some_iff.1 (build_required_text_eq_ok_iff.1 hr.date)
  · rw [hfind, if_pos (by decide)]
    rw [List.mem_singleton.1 hl]
  · rw [hfind, if_neg]
    simpa using hne rfl

theorem ConversionCreditRequest.reportedIn_of_outline {r : ConversionCreditRequest}
    (hstage : stage ≠ .technicalCredit) (hread : read vars = .ok r)
    (h : r.outline directory stage = .ok o) :
    o.ReportedIn vars (vars.insertMany o.resolved.toList) := by
  have hr := read_eq_ok_iff.1 hread
  obtain ⟨tenant, id, entry, -, hid, -, rfl⟩ := outline_eq_ok_iff.1 h
  exact Outline.reportedIn_of_workedOut (hr.context.workedOut_correlationId hid)
    (.of_build_required hr.date) rfl hstage

theorem ConversionDebitRequest.reportedIn_of_outline {r : ConversionDebitRequest}
    (hread : read vars = .ok r) (h : r.outline directory = .ok o) :
    o.ReportedIn vars (vars.insertMany o.resolved.toList) := by
  have hr := read_eq_ok_iff.1 hread
  obtain ⟨tenant, id, entry, -, hid, -, rfl⟩ := outline_eq_ok_iff.1 h
  exact Outline.reportedIn_of_workedOut (hr.context.workedOut_correlationId hid)
    (.of_build_required hr.date) rfl nofun

theorem RevertRequest.reportedIn_of_outline {r : RevertRequest} (hstage : stage ≠ .technicalCredit)
    (hread : read vars = .ok r) (h : r.outline settings directory clock stage = .ok o) :
    o.ReportedIn vars (vars.insertMany o.resolved.toList) := by
  have hr := read_eq_ok_iff.1 hread
  obtain ⟨tenant, id, date, resolved, entry, -, hid, hdate, -, rfl⟩ := outline_eq_ok_iff.1 h
  have hresolved : resolved = Dict.empty.insertMany resolved.toList := resolved.ofList_toList.symm
  exact Outline.reportedIn_of_workedOut (hr.context.workedOut_correlationId hid)
    (.of_build_optional hr.date (bookingDate_eq_ok hdate)) hresolved hstage

theorem DisposalDepositRequest.reportedIn_of_outline {r : DisposalDepositRequest}
    (hread : read vars = .ok r) (h : r.outline settings directory clock = .ok o) :
    o.ReportedIn vars (vars.insertMany o.resolved.toList) := by
  have hr := read_eq_ok_iff.1 hread
  obtain ⟨tenant, id, resolvedId, date, resolvedDate, entry, -, hid, hdate, -, rfl⟩ :=
    outline_eq_ok_iff.1 h
  exact Outline.reportedIn_of_workedOut
    (.of_build_optional hr.context.correlationId (workedOut_correlationId hid))
    (.of_build_optional hr.date (dateOrToday_eq_ok hdate)) rfl nofun

end Reported

theorem BookingStage.reportedIn_of_outline {stage : BookingStage} {env : Environment}
    {vars : Variables} {o : Outline} (h : stage.outline env vars = .ok o) :
    o.ReportedIn vars (vars.insertMany o.resolved.toList) := by
  cases outline_eq_ok_iff.1 h with
  | technicalCredit hread h => exact TechnicalCreditRequest.reportedIn_of_outline hread h
  | conversionCredit hstage hread h =>
    have hother : stage ≠ .technicalCredit := by
      rintro rfl
      exact absurd hstage (by decide)
    exact ConversionCreditRequest.reportedIn_of_outline hother hread h
  | conversionDebit hread h => exact ConversionDebitRequest.reportedIn_of_outline hread h
  | revert hstage hread h =>
    have hother : stage ≠ .technicalCredit := by
      rintro rfl
      exact absurd hstage (by decide)
    exact RevertRequest.reportedIn_of_outline hother hread h
  | disposalDeposit hread h => exact DisposalDepositRequest.reportedIn_of_outline hread h

/-- The variables of a job for a cancelled payment that gives neither an id nor a date. -/
def Variables.cancelling : Variables :=
  .ofList
    [("tenantIdentifier", .text "t"), ("paymentScheme", .text "S"), ("amount", .text "100.00"),
     ("transactionDate", .null), ("conversionAccountAmsId", .ofInt64 11),
     ("disposalAccountAmsId", .ofInt64 12), ("debtorIban", .text "DE02"),
     ("camt056", .text
       ("\x7b\"FIToFIPmtCxlReq\":\x7b\"Undrlyg\":[\x7b\"TxInf\":[\x7b" ++
        "\"OrgnlGrpInf\":\x7b\"OrgnlCreDtTm\":\"2024-01-30T10:00:00\"\x7d," ++
        "\"OrgnlEndToEndId\":\"E1\"," ++
        "\"OrgnlTxRef\":\x7b\"DbtrAgt\":\x7b\"FinInstnId\":\x7b\"BIC\":\"BANK\"\x7d\x7d\x7d" ++
        "\x7d]\x7d]\x7d\x7d"))]

/-- That job can be planned, under an id and for a day that have been worked out. -/
theorem BookingStage.plan_cancelling :
    ∃ plan, BookingStage.disposalDeposit.plan .reverting .cancelling = .ok plan ∧
      plan.correlationId = "BANK_20240130_E1" ∧ plan.outline.date = "20240131" := by
  have hplanned : (BookingStage.disposalDeposit.plan .reverting .cancelling).toOption.any
      fun plan => plan.correlationId = "BANK_20240130_E1" ∧ plan.outline.date = "20240131" := by
    decide +kernel
  obtain ⟨plan, hplan, hworkedOut⟩ := (Option.any_eq_true _ _).1 hplanned
  exact ⟨plan, toOption_eq_some_iff.1 hplan, of_decide_eq_true hworkedOut⟩

end PaymentBooking
