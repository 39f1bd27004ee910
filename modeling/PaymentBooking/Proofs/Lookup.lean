import PaymentBooking.Lookup
import PaymentBooking.Proofs.Booking.Replay
import PaymentBooking.Proofs.Ledger.Registry

/-! # What a lookup answers

A lookup that is answered reports the record that was registered last for the IBAN and the tenant
that it asks for, or that there is none. Whatever else has happened to the ledger plays no part, and
no variable changes but those that the report is made of.
-/

namespace PaymentBooking

theorem Iban.text_of_parse {s : String} {iban : Iban} (h : parse s = .ok iban) : iban.text = s := by
  simp only [parse] at h
  split_ifs at h
  cases h
  rfl

namespace AccountLookup

variable {directory : TenantDirectory} {l : Ledger} {vars done : Variables} {tenant : String}
  {iban : Iban} {record : Option AccountRecord}

/-- What variables ask for: the tenant by one name, a checked IBAN by one of two. -/
structure Asks (vars : Variables) (tenant : String) (iban : Iban) : Prop where
  valid : Iban.parse iban.text = .ok iban
  tenant : vars.find? "tenantIdentifier" = some (.text tenant)
  iban : vars.find? "iban" = some (.text iban.text) ∨
    vars.find? "valueFilter" = some (.text iban.text)

/-- What variables are reported for the record of an IBAN. -/
structure Answers (record : Option AccountRecord) (vars output : Variables) : Prop where
  ready : output.find? "accountAmsStatus" = some (.text "READY_TO_RECEIVE_MONEY") ↔
    ∃ r ∈ record, r.flags = []
  notReady : output.find? "accountAmsStatus" = some (.text "NOT_READY_TO_RECEIVE_MONEY") ↔
    ¬∃ r ∈ record, r.flags = []
  /-- The accounts and flags of the record stand in the place of any that were given. -/
  accounts : ∀ r ∈ record,
    output.find? "conversionAccountAmsId" = some (.ofInt64 r.conversionAccount) ∧
    output.find? "disposalAccountAmsId" = some (.ofInt64 r.disposalAccount) ∧
    output.find? "accountAmsFlags" = some (.array (r.flags.map .text))
  others : ∀ name ≠ "accountAmsStatus",
    (record ≠ none → name ∉ ["conversionAccountAmsId", "disposalAccountAmsId", "accountAmsFlags"]) →
      output.find? name = vars.find? name

/-! ## One lookup -/

theorem subject_of_read {r : AccountLookupRequest} {tenant : Tenant}
    (hread : AccountLookupRequest.read vars = .ok r)
    (htenant : directory.resolve r.tenant = .ok tenant) (hiban : Iban.parse r.iban = .ok iban) :
    subject directory vars = .ok (r.tenant, iban) := by
  rw [subject, hread]
  change (directory.resolve r.tenant >>= _) = _
  rw [htenant]
  change ((Iban.parse r.iban).mapError _ >>= _) = _
  rw [hiban, ← (TenantDirectory.resolve_eq_ok htenant).1]
  rfl

theorem subject_eq_ok (h : subject directory vars = .ok (tenant, iban)) :
    ∃ r, AccountLookupRequest.read vars = .ok r ∧ Iban.parse r.iban = .ok iban ∧
      r.tenant = tenant := by
  obtain ⟨r, hread, hrest⟩ := bind_eq_ok_iff.1 h
  obtain ⟨found, hfound, hrest⟩ := bind_eq_ok_iff.1 hrest
  obtain ⟨parsed, hparsed, hrest⟩ := bind_eq_ok_iff.1 hrest
  cases hrest
  exact ⟨r, hread, mapError_eq_ok_iff.1 hparsed, (TenantDirectory.resolve_eq_ok hfound).1.symm⟩

/-- Only the subject of a lookup is asked of the ledger. -/
theorem find_of_subject (h : subject directory vars = .ok (tenant, iban)) :
    find directory l vars = l.lookup tenant iban := by
  rw [find, h]
  rfl

theorem find_of_subject_eq_error {e : Error} (h : subject directory vars = .error e) :
    find directory l vars = .error e := by
  rw [find, h]
  rfl

theorem find_eq_ok (h : find directory l vars = .ok record) :
    ∃ r iban, AccountLookupRequest.read vars = .ok r ∧ Iban.parse r.iban = .ok iban ∧
      l.lookup r.tenant iban = .ok record := by
  obtain ⟨⟨tenant, iban⟩, hsubject, hlookup⟩ := bind_eq_ok_iff.1 h
  obtain ⟨r, hread, hiban, rfl⟩ := subject_eq_ok hsubject
  exact ⟨r, iban, hread, hiban, hlookup⟩

theorem asks_of_read {r : AccountLookupRequest}
    (hread : AccountLookupRequest.read vars = .ok r) (hiban : Iban.parse r.iban = .ok iban) :
    Asks vars r.tenant iban := by
  have htext := Iban.text_of_parse hiban
  refine ⟨htext ▸ hiban, AccountLookupRequest.find?_tenant hread, ?_⟩
  rw [htext]
  exact AccountLookupRequest.find?_iban hread

theorem nodup_report (record : Option AccountRecord) : ((report record).map Prod.fst).Nodup := by
  cases record <;> simp [report, accountVariables]

theorem answers_output (record : Option AccountRecord) (vars : Variables) :
    Answers record vars (output vars record) := by
  have hfound : ∀ {name value}, (name, value) ∈ report record →
      (output vars record).find? name = some value := fun hmem =>
    Dict.find?_insertMany_of_mem (nodup_report record) hmem vars
  have hstatus : (output vars record).find? "accountAmsStatus" =
      some (.text (Readiness.of record).text) := hfound (by simp [report])
  refine ⟨?_, ?_, ?_, ?_⟩
  · rw [hstatus]
    rcases record with _ | ⟨conversion, disposal, _ | _⟩ <;> simp [Readiness.of, Readiness.text]
  · rw [hstatus]
    rcases record with _ | ⟨conversion, disposal, _ | _⟩ <;> simp [Readiness.of, Readiness.text]
  · rintro r ⟨⟩
    refine ⟨hfound ?_, hfound ?_, hfound ?_⟩ <;> simp [report, accountVariables]
  · intro name hname haccounts
    apply Dict.find?_insertMany_of_not_mem
    cases record with
    | none => simpa [report] using hname
    | some r => simpa [report, accountVariables, hname] using haccounts (Option.some_ne_none r)

/-! ## Lookups after a history -/

theorem exists_read_of_run_after {history : List Command}
    (h : run directory (Ledger.after history) vars = .ok done) :
    ∃ r iban, AccountLookupRequest.read vars = .ok r ∧ Iban.parse r.iban = .ok iban ∧
      done = output vars (Ledger.lastRecord? r.tenant iban history) := by
  obtain ⟨record, hfind, rfl⟩ := map_eq_ok_iff.1 h
  obtain ⟨r, iban, hread, hiban, hlookup⟩ := find_eq_ok hfind
  rw [Ledger.lookup_after] at hlookup
  split at hlookup
  · cases hlookup
    exact ⟨r, iban, hread, hiban, rfl⟩
  · cases hlookup

/-- A lookup that is answered after a history is answered with the record that was registered last
for its tenant and its IBAN. Any other history with the same last record gives the same answer. -/
theorem answers_after {history : List Command}
    (h : run directory (Ledger.after history) vars = .ok done) :
    ∃ tenant iban, Asks vars tenant iban ∧
      Answers (Ledger.lastRecord? tenant iban history) vars done ∧
      ∀ history' done',
        Ledger.lastRecord? tenant iban history' = Ledger.lastRecord? tenant iban history →
        run directory (Ledger.after history') vars = .ok done' → done' = done := by
  obtain ⟨r, iban, hread, hiban, rfl⟩ := exists_read_of_run_after h
  refine ⟨r.tenant, iban, asks_of_read hread hiban, answers_output _ vars, ?_⟩
  intro history' done' hsame h'
  obtain ⟨r', iban', hread', hiban', rfl⟩ := exists_read_of_run_after h'
  cases hread.symm.trans hread'
  cases hiban.symm.trans hiban'
  rw [hsame]

end AccountLookup

def Iban.asked : Iban := ⟨"DE89370400440532013000"⟩

/-- A history in which that IBAN is registered for two tenants, and twice for one of them. -/
def Command.registering : List Command :=
  [.registerIban "t" .asked ⟨11, 12, ["BLOCKED"]⟩, .registerIban "u" .asked ⟨1, 2, []⟩,
   .registerIban "t" .asked ⟨13, 14, []⟩, .openAccount "t" 13 .zero, .submit "t" [],
   .registerIban "u" .asked ⟨3, 4, ["BLOCKED"]⟩]

theorem AccountLookup.answers_after_registering :
    ∃ output, run Environment.reverting.directory (Ledger.after Command.registering) .asking =
        .ok output ∧
      Asks .asking "t" .asked ∧ Answers (some ⟨13, 14, []⟩) .asking output := by
  have hanswered : (run Environment.reverting.directory (Ledger.after Command.registering)
      .asking).toOption.isSome := by
    decide +kernel
  obtain ⟨output, houtput⟩ := Option.isSome_iff_exists.1 hanswered
  have hrun := toOption_eq_some_iff.1 houtput
  obtain ⟨tenant, iban, hasks, hanswers, -⟩ := answers_after hrun
  have hasked : Variables.asking.text? "tenantIdentifier" = some "t" ∧
      Variables.asking.text? "valueFilter" = some Iban.asked.text ∧
      Variables.asking.text? "iban" = none := by
    decide +kernel
  obtain ⟨htenant, hfilter, hnone⟩ := hasked
  cases htenant.symm.trans (Variables.text?_eq_some_iff.2 hasks.tenant)
  have hiban : Iban.asked = iban := by
    rcases hasks.iban with hown | hother
    · cases hnone.symm.trans (Variables.text?_eq_some_iff.2 hown)
    · have htext := hfilter.symm.trans (Variables.text?_eq_some_iff.2 hother)
      exact congrArg Iban.mk (Option.some.inj htext)
  subst hiban
  exact ⟨output, hrun, hasks, hanswers⟩

end PaymentBooking
