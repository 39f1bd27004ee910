import PaymentBooking.Proofs.Booking.Movements

/-! # What the details of a booking say

The ids of a statement are those of the request, its document and its counterparty those of the
message that the stage refers to; an IBAN that the request names comes before or after that of the
message. The code of a leg is what the tenant configures under the key of its payment type.
-/

namespace PaymentBooking

/-- What the statement of a stage says, given the request and the messages that it reads. -/
inductive BookingStage.Describes (vars : Variables) : BookingStage → Statement → Prop
  /-- The counterparty of the credit is not shown. -/
  | technicalCredit {r : TechnicalCreditRequest} {id : String} {entry : StatementEntry}
      (hread : TechnicalCreditRequest.read vars = .ok r) (hid : r.context.correlationId = some id)
      (hentry : Message.entry .pacs008 r.pacs008 none = .ok entry) :
      Describes vars .technicalCredit ⟨id, r.context.groupId, entry.payload.print, .unknown⟩
  | conversionCredit {stage : BookingStage} {r : ConversionCreditRequest} {id raw : String}
      {entry : StatementEntry} (hstage : stage ∈ [.conversionCredit, .conversionRecall])
      (hread : ConversionCreditRequest.read vars = .ok r) (hid : r.context.correlationId = some id)
      (hraw : r.pacs008 = some raw)
      (hentry : Message.entry .pacs008 raw (some .credit) = .ok entry) :
      Describes vars stage ⟨id, r.context.groupId, entry.payload.print,
        ⟨entry.party.iban <|> r.creditorIban, entry.party.name, entry.party.remittance⟩⟩
  /-- The document is that of the returned credit if it is still at hand, and else is empty. -/
  | conversionReturn {r : ConversionCreditRequest} {id raw : String} {returned : StatementEntry}
      {document : Json} (hread : ConversionCreditRequest.read vars = .ok r)
      (hid : r.context.correlationId = some id) (hraw : r.pacs004 = some raw)
      (hreturned : Message.entry .pacs004 raw (some .credit) = .ok returned)
      (hdocument : (r.pacs008 = none ∧ document = .object []) ∨ ∃ original entry,
        r.pacs008 = some original ∧
          Message.entry .pacs008 original (some .credit) = .ok entry ∧ document = entry.payload) :
      Describes vars .conversionReturn ⟨id, r.context.groupId, document.print,
        ⟨returned.party.iban <|> r.creditorIban, returned.party.name, returned.party.remittance⟩⟩
  | conversionDebit {r : ConversionDebitRequest} {id : String} {entry : StatementEntry}
      (hread : ConversionDebitRequest.read vars = .ok r) (hid : r.context.correlationId = some id)
      (hentry : Message.entry .pain001 r.pain001 none = .ok entry) :
      Describes vars .conversionDebit ⟨id, r.context.groupId, entry.payload.print, entry.party⟩
  | revert {stage : BookingStage} {r : RevertRequest} {id : String} {entry : StatementEntry}
      (hstage : stage ∈ [.revert, .revertWithoutFee]) (hread : RevertRequest.read vars = .ok r)
      (hid : r.context.correlationId = some id)
      (hentry : Message.entry .pain001 r.pain001 none = .ok entry) :
      Describes vars stage ⟨id, r.context.groupId, entry.payload.print,
        ⟨r.debtorIban <|> entry.party.iban, entry.party.name, entry.party.remittance⟩⟩
  /-- A correlation id that is missing is made of what is cancelled, and is the group, too, if that
  is missing. -/
  | disposalDeposit {r : DisposalDepositRequest} {id : String} {entry : StatementEntry}
      (hread : DisposalDepositRequest.read vars = .ok r)
      (hid : r.context.correlationId = some id ∨ r.context.correlationId = none ∧
        ∃ reference, CancellationReference.ofMessage r.camt056 = .ok reference ∧
          id = reference.correlationId)
      (hentry : Message.entry .camt056 r.camt056 none = .ok entry) :
      Describes vars .disposalDeposit
        ⟨id, some (r.context.groupId.getD id), entry.payload.print,
          ⟨r.debtorIban <|> entry.party.iban, entry.party.name, entry.party.remittance⟩⟩

/-! ## Statements of outlines -/

section Requests

variable {stage : BookingStage} {settings : LedgerSettings} {directory : TenantDirectory}
  {clock : Clock} {vars : Variables} {o : Outline}

theorem TechnicalCreditRequest.describes_of_outline {r : TechnicalCreditRequest}
    (hread : read vars = .ok r) (h : r.outline directory = .ok o) :
    BookingStage.technicalCredit.Describes vars o.statement := by
  obtain ⟨tenant, id, account, entry, -, hid, -, hentry, rfl⟩ := outline_eq_ok_iff.1 h
  exact .technicalCredit hread hid hentry

theorem ConversionCreditRequest.describes_of_outline {r : ConversionCreditRequest}
    (hstage : stage ∈ [.conversionCredit, .conversionRecall]) (hread : read vars = .ok r)
    (h : r.outline directory stage = .ok o) : stage.Describes vars o.statement := by
  have hcredit : stage ≠ .conversionReturn := by
    rintro rfl
    simp at hstage
  obtain ⟨tenant, id, entry, -, hid, hentry, rfl⟩ := outline_eq_ok_iff.1 h
  rw [if_neg hcredit, creditEntry_eq_ok_iff] at hentry
  obtain ⟨raw, hraw, hentry⟩ := hentry
  exact .conversionCredit hstage hread hid hraw hentry

theorem ConversionCreditRequest.describes_of_outline_return {r : ConversionCreditRequest}
    (hread : read vars = .ok r) (h : r.outline directory .conversionReturn = .ok o) :
    BookingStage.conversionReturn.Describes vars o.statement := by
  obtain ⟨tenant, id, entry, -, hid, hentry, rfl⟩ := outline_eq_ok_iff.1 h
  rw [if_pos rfl, returnEntry_eq_ok_iff] at hentry
  obtain ⟨raw, returned, hraw, hreturned, hdocument⟩ := hentry
  rcases hdocument with ⟨hnone, rfl⟩ | ⟨original, credit, horiginal, hcredit, rfl⟩
  · have hdescribes := BookingStage.Describes.conversionReturn hread hid hraw hreturned
      (.inl ⟨hnone, rfl⟩)
    exact hdescribes
  · have hdescribes := BookingStage.Describes.conversionReturn hread hid hraw hreturned
      (.inr ⟨original, credit, horiginal, hcredit, rfl⟩)
    exact hdescribes

theorem ConversionDebitRequest.describes_of_outline {r : ConversionDebitRequest}
    (hread : read vars = .ok r) (h : r.outline directory = .ok o) :
    BookingStage.conversionDebit.Describes vars o.statement := by
  obtain ⟨tenant, id, entry, -, hid, hentry, rfl⟩ := outline_eq_ok_iff.1 h
  exact .conversionDebit hread hid hentry

theorem RevertRequest.describes_of_outline {r : RevertRequest}
    (hstage : stage ∈ [.revert, .revertWithoutFee]) (hread : read vars = .ok r)
    (h : r.outline settings directory clock stage = .ok o) : stage.Describes vars o.statement := by
  obtain ⟨tenant, id, date, resolved, entry, -, hid, -, hentry, rfl⟩ := outline_eq_ok_iff.1 h
  exact .revert hstage hread hid hentry

theorem DisposalDepositRequest.correlationId_eq_ok {r : DisposalDepositRequest} {id : String}
    {resolved : Variables} (h : r.correlationId = .ok (id, resolved)) :
    r.context.correlationId = some id ∨ r.context.correlationId = none ∧
      ∃ reference, CancellationReference.ofMessage r.camt056 = .ok reference ∧
        id = reference.correlationId := by
  rw [correlationId] at h
  cases hid : r.context.correlationId with
  | some given =>
    rw [hid] at h
    cases h
    exact .inl rfl
  | none =>
    rw [hid] at h
    obtain ⟨reference, hreference, h⟩ := bind_eq_ok_iff.1 h
    cases h
    exact .inr ⟨rfl, reference, mapError_eq_ok_iff.1 hreference, rfl⟩

theorem DisposalDepositRequest.describes_of_outline {r : DisposalDepositRequest}
    (hread : read vars = .ok r) (h : r.outline settings directory clock = .ok o) :
    BookingStage.disposalDeposit.Describes vars o.statement := by
  obtain ⟨tenant, id, resolvedId, date, resolvedDate, entry, -, hid, -, hentry, rfl⟩ :=
    outline_eq_ok_iff.1 h
  exact .disposalDeposit hread (correlationId_eq_ok hid) hentry

end Requests

theorem BookingStage.describes_of_outline {stage : BookingStage} {env : Environment}
    {vars : Variables} {o : Outline} (h : stage.outline env vars = .ok o) :
    stage.Describes vars o.statement := by
  cases outline_eq_ok_iff.1 h with
  | technicalCredit hread h => exact TechnicalCreditRequest.describes_of_outline hread h
  | conversionCredit hstage hread h =>
    simp only [List.mem_cons, List.not_mem_nil, or_false] at hstage
    rcases hstage with rfl | rfl | rfl
    · exact ConversionCreditRequest.describes_of_outline (by decide) hread h
    · exact ConversionCreditRequest.describes_of_outline (by decide) hread h
    · exact ConversionCreditRequest.describes_of_outline_return hread h
  | conversionDebit hread h => exact ConversionDebitRequest.describes_of_outline hread h
  | revert hstage hread h => exact RevertRequest.describes_of_outline hstage hread h
  | disposalDeposit hread h => exact DisposalDepositRequest.describes_of_outline hread h

/-! ## Codes -/

theorem TenantDirectory.codes_of_resolve {d : TenantDirectory} {name : String} {tenant : Tenant}
    (h : d.resolve name = .ok tenant) : tenant.tables.codes = d.codes.find? name := by
  rw [resolve] at h
  split at h
  · cases h
    rfl
  · cases h

theorem Outline.code_of_plan {o : Outline} {plan : Plan} (h : o.plan = .ok plan) :
    ∀ q ∈ plan.postings, q.code = o.tenant.code? (q.leg.key o.scheme o.stage) := by
  obtain ⟨postings, hpostings, hplan⟩ := bind_eq_ok_iff.1 h
  cases hplan
  have hall := mapM_eq_ok hpostings
  clear h hpostings
  generalize o.legs = legs at hall
  induction hall with
  | nil => simp
  | cons hpost _ ih =>
    obtain ⟨paymentType, -, hq⟩ := bind_eq_ok_iff.1 hpost
    cases hq
    exact List.forall_mem_cons.2 ⟨rfl, ih⟩

end PaymentBooking
