import PaymentBooking.Proofs.Job.Outcomes
import PaymentBooking.Proofs.Lookup
import PaymentBooking.Proofs.Tenant
import PaymentBooking.Settings.Document

/-! # Which lookups are answered

Settings name tenants in two places: in the tables of the directory, and with the accounts and IBANs
that the ledger starts with. A lookup needs both. For a tenant with tables that an account or an
IBAN is given for, every IBAN is answered, a registered one or not; a tenant with tables only is not
known to the ledger, and no job makes it known.
-/

namespace PaymentBooking

/-! ## Jobs as batches -/

def Command.submits (batches : List (String × List BatchItem)) : List Command :=
  batches.map fun b => .submit b.1 b.2

namespace Worker

/-- What a job does to the ledger is nothing, or one batch. -/
theorem handle_exec (env : Environment) (l : Ledger) (job : Job) :
    (handle env l job).1 = l ∨
      ∃ tenant items, (handle env l job).1 = l.exec (.submit tenant items) := by
  rcases handle_cases env l job with
    ⟨signal, e, h⟩ | ⟨operation, h⟩ | ⟨stage, l', output, -, hdone, h⟩
  · exact .inl (by rw [h])
  · exact .inl (by rw [h])
  · rw [h]
    cases stage with
    | accountLookup => exact .inl (congrArg Prod.fst hdone).symm
    | booking stage =>
      obtain ⟨plan, -, hsubmit⟩ := perform_booking_eq_ok_iff.1 hdone
      obtain ⟨⟨receipt, haccepted⟩, -⟩ := Plan.submit_eq_ok_iff.1 hsubmit
      refine .inr ⟨(plan.batch env.settings).tenant, (plan.batch env.settings).items, ?_⟩
      rw [Ledger.exec, haccepted]

theorem handleAll_exec (env : Environment) (l : Ledger) (jobs : List Job) :
    ∃ batches, (handleAll env l jobs).1 = l.execAll (Command.submits batches) := by
  induction jobs generalizing l with
  | nil => exact ⟨[], rfl⟩
  | cons job jobs ih =>
    obtain ⟨batches, hbatches⟩ := ih (handle env l job).1
    rw [handleAll]
    rcases handle_exec env l job with hsame | ⟨tenant, items, hbatch⟩
    · exact ⟨batches, hbatches.trans (by rw [hsame])⟩
    · exact ⟨(tenant, items) :: batches, hbatches.trans (by rw [hbatch]; rfl)⟩

end Worker

/-! ## The ledger at the start -/

namespace Settings

variable {s : Settings} {tenant : String} {iban : Iban}

/-- What the ledger is given at the start. -/
def history (s : Settings) : List Command :=
  s.accounts.map (fun a => .openAccount a.tenant a.account a.balance) ++
    s.ibans.map fun i => .registerIban i.tenant i.iban i.record

theorem seed_eq_after (s : Settings) : s.seed = Ledger.after s.history := by
  rw [seed, history, Ledger.after, Ledger.execAll_append, Ledger.execAll, Ledger.execAll,
    List.foldl_map, List.foldl_map]
  rfl

def Seeds (s : Settings) (tenant : String) : Prop :=
  (∃ a ∈ s.accounts, a.tenant = tenant) ∨ ∃ i ∈ s.ibans, i.tenant = tenant

/-- The record that is given last for an IBAN of a tenant, if one is. -/
def record? (s : Settings) (tenant : String) (iban : Iban) : Option AccountRecord :=
  ((s.ibans.filter fun i => i.tenant = tenant ∧ i.iban = iban).map IbanSeed.record).getLast?

/-- The ledger after jobs, from the start. -/
def ledgerAfter (s : Settings) (clock : Clock) (jobs : List Job) : Ledger :=
  (Worker.handleAll (s.environment clock) s.seed jobs).1

/-- The history of a ledger after jobs goes on with batches only. -/
theorem exists_ledgerAfter_eq (s : Settings) (clock : Clock) (jobs : List Job) :
    ∃ batches, s.ledgerAfter clock jobs = Ledger.after (s.history ++ Command.submits batches) := by
  obtain ⟨batches, hbatches⟩ := Worker.handleAll_exec (s.environment clock) s.seed jobs
  refine ⟨batches, hbatches.trans ?_⟩
  rw [seed_eq_after, Ledger.after_append]

theorem any_introduces_history {batches : List (String × List BatchItem)} :
    (s.history ++ Command.submits batches).any (Command.introduces tenant) ↔ s.Seeds tenant := by
  simp [history, Seeds, Command.submits, Command.introduces]

theorem lastRecord?_history (batches : List (String × List BatchItem)) :
    Ledger.lastRecord? tenant iban (s.history ++ Command.submits batches) =
      s.record? tenant iban := by
  have haccounts : ∀ as : List AccountSeed,
      (as.map fun a => Command.openAccount a.tenant a.account a.balance).filterMap
        (Command.record? tenant iban) = [] := by
    simp [Command.record?]
  have hbatches : (Command.submits batches).filterMap (Command.record? tenant iban) = [] := by
    simp [Command.submits, Command.record?]
  have hibans : (s.ibans.map fun i => Command.registerIban i.tenant i.iban i.record).filterMap
      (Command.record? tenant iban) =
        (s.ibans.filter fun i => i.tenant = tenant ∧ i.iban = iban).map IbanSeed.record := by
    rw [List.filterMap_map, ← List.filterMap_eq_map, List.filterMap_filter]
    apply List.filterMap_congr
    intro i _
    simp [Command.record?]
  rw [Ledger.lastRecord?, history, List.filterMap_append, List.filterMap_append, haccounts,
    hbatches, hibans, List.nil_append, List.append_nil, record?]

/-- After any jobs the ledger knows the tenants that something is given for, with the records that
are given. -/
theorem lookup_ledgerAfter (s : Settings) (clock : Clock) (jobs : List Job) (tenant : String)
    (iban : Iban) :
    (s.Seeds tenant →
      (s.ledgerAfter clock jobs).lookup tenant iban = .ok (s.record? tenant iban)) ∧
    (¬s.Seeds tenant →
      (s.ledgerAfter clock jobs).lookup tenant iban =
        .error (.ledger (.unknownTenant tenant))) := by
  obtain ⟨batches, hl⟩ := s.exists_ledgerAfter_eq clock jobs
  rw [hl, Ledger.lookup_after, lastRecord?_history]
  constructor
  · intro hseeds
    rw [if_pos (any_introduces_history.2 hseeds)]
  · intro hseeds
    rw [if_neg fun h => hseeds (any_introduces_history.1 h)]

end Settings

/-! ## Lookups -/

namespace Worker

variable {env : Environment} {l : Ledger} {job : Job}

theorem handle_of_found (htype : job.type = Stage.accountLookup.jobType)
    {record : Option AccountRecord}
    (hfind : AccountLookup.find env.directory l job.vars = .ok record) :
    handle env l job = (l, .ok (.completed (AccountLookup.output job.vars record))) := by
  rw [handle_of_stage htype.symm, perform, AccountLookup.run, hfind]
  rfl

theorem handle_of_not_found (htype : job.type = Stage.accountLookup.jobType) {e : Error}
    (hfind : AccountLookup.find env.directory l job.vars = .error e) :
    handle env l job = (l, .ok (.ofError Stage.accountLookup.failureSignal e)) := by
  rw [handle_of_stage htype.symm, perform, AccountLookup.run, hfind]
  rfl

/-- After any jobs, a lookup that names a tenant with tables and a valid IBAN is completed if an
account or an IBAN is given for the tenant, and only then. It reports the record that is given last
for the IBAN, or that there is none; without an account and an IBAN it is left to a person because
the ledger does not know the tenant. -/
theorem handle_lookup (s : Settings) (clock : Clock) (jobs : List Job)
    {r : AccountLookupRequest} {tables : TenantTables} {iban : Iban}
    (htype : job.type = Stage.accountLookup.jobType)
    (hread : AccountLookupRequest.read job.vars = .ok r)
    (htenant : s.tenants.find? r.tenant = some tables) (hiban : Iban.parse r.iban = .ok iban) :
    (s.Seeds r.tenant →
      ∃ output, handle (s.environment clock) (s.ledgerAfter clock jobs) job =
          (s.ledgerAfter clock jobs, .ok (.completed output)) ∧
        AccountLookup.Answers (s.record? r.tenant iban) job.vars output) ∧
    (¬s.Seeds r.tenant →
      handle (s.environment clock) (s.ledgerAfter clock jobs) job =
        (s.ledgerAfter clock jobs, .ok (.failed Stage.accountLookup.failureSignal .ledger
          ("Ledger error: unknown tenant " ++ r.tenant)))) := by
  have hfind : AccountLookup.find (s.environment clock).directory (s.ledgerAfter clock jobs)
      job.vars = (s.ledgerAfter clock jobs).lookup r.tenant iban :=
    AccountLookup.find_of_subject
      (AccountLookup.subject_of_read hread (Settings.resolve_of_find? htenant) hiban)
  obtain ⟨hknown, hunknown⟩ := s.lookup_ledgerAfter clock jobs r.tenant iban
  constructor
  · intro hseeds
    have hhandle := handle_of_found htype (hfind.trans (hknown hseeds))
    exact ⟨_, hhandle, AccountLookup.answers_output _ _⟩
  · intro hseeds
    have hwords : "Ledger error: unknown tenant " = "Ledger error: " ++ "unknown tenant " := by
      decide
    rw [handle_of_not_found htype (hfind.trans (hunknown hseeds)), hwords, String.append_assoc]
    rfl

end Worker

def Settings.uneven : String :=
  "[tenants.t.payment_type_ids]\nk = 1\n[tenants.u.payment_type_ids]\nk = 1\n" ++
  "[[accounts]]\ntenant = \"t\"\nid = 11\n"

/-- A lookup with these variables. -/
def Job.lookup (vars : Variables) : Job where
  key := 1
  type := Stage.accountLookup.jobType
  vars

/-- A lookup for a tenant. -/
def Job.asking (tenant : String) : Job :=
  .lookup (.ofList [("tenantIdentifier", .text tenant), ("iban", .text Iban.asked.text)])

theorem Job.read_asking {tenant : String} (h : tenant ∈ ["t", "u"]) :
    AccountLookupRequest.read (asking tenant).vars = .ok ⟨tenant, Iban.asked.text⟩ := by
  have hread : ∀ tenant ∈ ["t", "u"],
      (AccountLookupRequest.read (asking tenant).vars).toOption =
        some ⟨tenant, Iban.asked.text⟩ := by
    decide +kernel
  exact toOption_eq_some_iff.1 (hread tenant h)

theorem Iban.parse_asked : parse asked.text = .ok asked :=
  toOption_eq_some_iff.1 (by decide +kernel)

theorem Worker.handle_lookup_asking :
    ∃ s, Settings.parse Settings.uneven = .ok s ∧
      (∃ output, handle (s.environment fun _ => "")
          (s.ledgerAfter (fun _ => "") [.asking "u"]) (.asking "t") =
            (s.ledgerAfter (fun _ => "") [.asking "u"], .ok (.completed output)) ∧
        output.find? "accountAmsStatus" = some (.text "NOT_READY_TO_RECEIVE_MONEY")) ∧
      handle (s.environment fun _ => "") (s.ledgerAfter (fun _ => "") [.asking "t"])
          (.asking "u") =
        (s.ledgerAfter (fun _ => "") [.asking "t"],
          .ok (.failed "Error_AccountLookupToBeHandledManually" .ledger
            "Ledger error: unknown tenant u")) := by
  have hparsed : (Settings.parse Settings.uneven).toOption.any fun s =>
      (s.tenants.find? "t").isSome ∧ (s.tenants.find? "u").isSome ∧
        s.accounts.map AccountSeed.tenant = ["t"] ∧ s.ibans.isEmpty := by
    decide +kernel
  obtain ⟨s, hs, hfacts⟩ := exists_of_any hparsed
  obtain ⟨ht, hu, haccounts, hibans⟩ := of_decide_eq_true hfacts
  obtain ⟨ttables, ht⟩ := Option.isSome_iff_exists.1 ht
  obtain ⟨utables, hu⟩ := Option.isSome_iff_exists.1 hu
  have hnone : s.ibans = [] := List.isEmpty_iff.1 hibans
  have hseeds (tenant : String) : s.Seeds tenant ↔ tenant = "t" := by
    have hmem : (∃ a ∈ s.accounts, a.tenant = tenant) ↔
        tenant ∈ s.accounts.map AccountSeed.tenant := by
      simp
    rw [Settings.Seeds, hmem, haccounts, hnone]
    simp
  refine ⟨s, hs, ?_, ?_⟩
  · obtain ⟨output, houtput, hanswers⟩ :=
      (handle_lookup s (fun _ => "") [.asking "u"] rfl (Job.read_asking (by decide)) ht
        Iban.parse_asked).1 ((hseeds _).2 rfl)
    have hrecord : s.record? "t" .asked = none := by
      rw [Settings.record?, hnone]
      rfl
    exact ⟨output, houtput, hanswers.notReady.2 (by simp [hrecord])⟩
  · exact (handle_lookup s (fun _ => "") [.asking "t"] rfl (Job.read_asking (by decide)) hu
      Iban.parse_asked).2 (fun h => absurd ((hseeds _).1 h) (by decide))

/-- Not every lookup that names a tenant with tables and a valid IBAN is answered. -/
theorem Worker.not_all_lookups_answered :
    ¬∀ text s clock jobs job r tables iban, Settings.parse text = .ok s →
      job.type = Stage.accountLookup.jobType → AccountLookupRequest.read job.vars = .ok r →
      s.tenants.find? r.tenant = some tables → Iban.parse r.iban = .ok iban →
      ∃ output, (handle (s.environment clock)
        (handleAll (s.environment clock) s.seed jobs).1 job).2 = .ok (.completed output) := by
  intro hall
  have hparsed : (Settings.parse Settings.uneven).toOption.any fun s =>
      (s.tenants.find? "u").isSome ∧
        (AccountLookup.find s.directory s.seed (Job.asking "u").vars).toOption.isNone := by
    decide +kernel
  obtain ⟨s, hs, hfacts⟩ := exists_of_any hparsed
  obtain ⟨hu, hnone⟩ := of_decide_eq_true hfacts
  obtain ⟨tables, hu⟩ := Option.isSome_iff_exists.1 hu
  obtain ⟨output, houtput⟩ := hall Settings.uneven s (fun _ => "") [] (.asking "u") _ tables .asked
    hs rfl (Job.read_asking (by decide)) hu Iban.parse_asked
  cases hfind : AccountLookup.find s.directory s.seed (Job.asking "u").vars with
  | ok record =>
    rw [hfind] at hnone
    cases hnone
  | error e =>
    rw [handleAll, handle_of_not_found rfl hfind] at houtput
    cases houtput

end PaymentBooking
