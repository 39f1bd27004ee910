import PaymentBooking.Proofs.Job.Effect
import PaymentBooking.Proofs.Job.Lines
import PaymentBooking.Proofs.Job.Schedule
import PaymentBooking.Proofs.Json.Unbroken
import PaymentBooking.Proofs.Text.Separator

/-! # What a run writes

A run comes to its jobs if its settings can be read, its log be started, its permits be given out
and its file of jobs be found. Its jobs then come to what they come to one after the other, in an
order that the schedule makes. But the lines are in the order of the file, each the record of a job,
up to the first job that stops without an outcome. What is written depends on the file only by the
jobs in it: lines that are no jobs may stand anywhere.
-/

namespace PaymentBooking

open Worker

/-- What becomes of the jobs of a file one after the other, from the seeded ledger on. -/
def Settings.handled (s : Settings) (clock : Clock) (bytes : List UInt8) :
    List (Job × Except Decimal.Operation Outcome) :=
  (handleAll (s.environment clock) s.seed (JobLine.jobsIn bytes)).2

/-- The members that an outcome is shown with: what has become of the job, its key and its type, and
then its variables or why it is left to a person. -/
inductive Outcome.Shows (job : Job) : Outcome → List (String × Json) → Prop
  | completed (vars : Variables) :
      Shows job (.completed vars)
        [("status", .text "completed"), ("key", .number (.ofUInt64 job.key)),
         ("type", .text job.type), ("variables", .ofDict vars)]
  | failed (signal : String) (kind : FailureKind) (reason : String) :
      Shows job (.failed signal kind reason)
        [("status", .text "failed"), ("key", .number (.ofUInt64 job.key)),
         ("type", .text job.type), ("signal", .text signal), ("kind", .text kind.name),
         ("reason", .text reason)]

theorem Outcome.exists_shows (job : Job) (o : Outcome) :
    ∃ members, o.Shows job members ∧ o.record job = .object members := by
  cases o with
  | completed vars => exact ⟨_, .completed vars, rfl⟩
  | failed signal kind reason => exact ⟨_, .failed signal kind reason, rfl⟩

namespace Cli

variable {files : Files} {arguments : List String} {given : Arguments} {settings : Settings}
  {bytes : List UInt8} {r : Runtime}

/-! ## Coming to the jobs -/

/-- The files that the arguments name hold these settings and these jobs. -/
structure Loads (files : Files) (arguments : List String) (given : Arguments)
    (settings : Settings) (bytes : List UInt8) : Prop where
  read : Arguments.read arguments = .ok given
  settings : loadSettings? files given.settings = some settings
  jobs : files given.jobs = some bytes

theorem Loads.of_files {files' : Files} {bytes' : List UInt8}
    (h : Loads files arguments given settings bytes)
    (hsettings : files' given.settings = files given.settings)
    (hjobs : files' given.jobs = some bytes') :
    Loads files' arguments given settings bytes' := by
  refine ⟨h.read, ?_, hjobs⟩
  rw [loadSettings?, hsettings]
  exact h.settings

def Runtime.results (r : Runtime) (s : Settings) (clock : Clock) (workers : ℕ)
    (bytes : List UInt8) : List (Job × Except Decimal.Operation Outcome) :=
  ((Pool.start s.seed (JobLine.jobsIn bytes)).finish (s.environment clock) workers
    r.schedule).results

/-- Nothing stops a run in front of its jobs but its log or its permits. -/
theorem run_eq (program : Program) (clock : Clock) (h : Loads files arguments given settings bytes)
    (hlog : r.startsLog settings.logging.level) (hpermits : max given.workers 1 ≤ r.maxPermits) :
    run program r clock files arguments =
      ⟨if (outputOf (r.results settings clock (max given.workers 1) bytes)).2 then 0 else 1,
        (outputOf (r.results settings clock (max given.workers 1) bytes)).1,
        (JobLine.readAll bytes).filterMap report⟩ := by
  have hgo : (!r.startsLog settings.logging.level ||
      decide (r.maxPermits < max given.workers 1)) = false := by
    rw [hlog, decide_eq_false (Nat.not_lt.2 hpermits)]
    rfl
  rw [run, h.read]
  simp only [runArguments, h.settings, hgo, h.jobs, Bool.false_eq_true, if_false]
  rw [runJobs, JobLine.filterMap_jobOf?_readAll]
  rfl

/-! ## Output of the jobs -/

def linesOf (outcomes : List (Job × Outcome)) : List String :=
  outcomes.map fun o => o.2.line o.1

/-- The lines are those of the jobs before the first that has stopped. -/
theorem exists_outputOf_eq (results : List (Job × Except Decimal.Operation Outcome)) :
    ∃ (outcomes : List (Job × Outcome)) (rest : List (Job × Except Decimal.Operation Outcome)),
      results = outcomes.map (fun o => (o.1, .ok o.2)) ++ rest ∧
      (∀ x ∈ rest.head?, ∃ operation, x.2 = .error operation) ∧
      outputOf results = (linesOf outcomes, rest.isEmpty) := by
  induction results with
  | nil => exact ⟨[], [], rfl, nofun, rfl⟩
  | cons x results ih =>
    obtain ⟨job, operation | outcome⟩ := x
    · exact ⟨[], (job, .error operation) :: results, rfl, by simp, rfl⟩
    · obtain ⟨outcomes, rest, rfl, hrest, houtput⟩ := ih
      refine ⟨(job, outcome) :: outcomes, rest, rfl, hrest, ?_⟩
      rw [outputOf, houtput]
      rfl

/-- Each outcome is on a line of its own: no record has a line feed in it. -/
theorem splitOn_linesOf (outcomes : List (Job × Outcome)) :
    (String.join (linesOf outcomes)).toList.splitOn '\n' =
      outcomes.map (fun o => (o.2.record o.1).write) ++ [[]] := by
  have hlines : (String.join (linesOf outcomes)).toList =
      (outcomes.map fun o => (o.2.record o.1).write).flatMap fun record => record ++ ['\n'] := by
    simp [linesOf, Outcome.line, Json.print, List.flatMap_map]
  rw [hlines]
  apply Text.splitOn_flatMap_concat
  intro record hrecord
  obtain ⟨o, -, rfl⟩ := List.mem_map.1 hrecord
  exact (Json.unbroken_write _).not_mem_newline

/-- What a run leaves behind for jobs that have come to these results: success if none of them has
stopped, and a line for each in their order, up to the first that has. -/
structure Result.Shows (results : List (Job × Except Decimal.Operation Outcome))
    (done : Result) : Prop where
  success : done.exitCode = 0 ↔ ∀ x ∈ results, ∃ outcome, x.2 = .ok outcome
  lines : ∃ (outcomes : List (Job × Outcome)) (rest : List (Job × Except Decimal.Operation Outcome))
      (lines : List (List Char)),
    results = outcomes.map (fun o => (o.1, .ok o.2)) ++ rest ∧
    (∀ x ∈ rest.head?, ∃ operation, x.2 = .error operation) ∧
    (String.join done.output).toList.splitOn '\n' = lines ++ [[]] ∧
    List.Forall₂ (fun o line => ∃ members, o.2.Shows o.1 members ∧
      line = (Json.object members).write) outcomes lines

theorem Result.shows_outputOf (results : List (Job × Except Decimal.Operation Outcome))
    (reports : List String) :
    Shows results ⟨if (outputOf results).2 then 0 else 1, (outputOf results).1, reports⟩ := by
  obtain ⟨outcomes, rest, hresults, hrest, houtput⟩ := exists_outputOf_eq results
  rw [houtput]
  refine ⟨?_, outcomes, rest, _, hresults, hrest, splitOn_linesOf outcomes, ?_⟩
  · rw [hresults]
    cases rest with
    | nil =>
      refine iff_of_true rfl fun x hx => ?_
      rw [List.append_nil] at hx
      obtain ⟨o, -, rfl⟩ := List.mem_map.1 hx
      exact ⟨o.2, rfl⟩
    | cons x rest =>
      obtain ⟨operation, hstopped⟩ := hrest x rfl
      refine iff_of_false (by simp) fun hall => ?_
      obtain ⟨outcome, houtcome⟩ := hall x (List.mem_append_right _ List.mem_cons_self)
      cases hstopped.symm.trans houtcome
  · rw [List.forall₂_map_right_iff, List.forall₂_same]
    intro o _
    obtain ⟨members, hshows, hrecord⟩ := o.2.exists_shows o.1
    exact ⟨members, hshows, by rw [hrecord]⟩

/-- A run that can start its log and give out its permits comes to the jobs of its file. Each job
comes to what it comes to when all are handled one after the other from the seeded ledger on, in an
order that depends on the schedule. The run succeeds if no job stops without an outcome, and then
its output has one line for each job in the order of the file, with the key and the type of the job
and what has become of it. On the same schedule the output is the same for a file of jobs that
differs in lines that are no jobs. -/
theorem run_writes_outcomes (program : Program) (r : Runtime) (clock : Clock)
    (h : Loads files arguments given settings bytes)
    (hlog : r.startsLog settings.logging.level) (hpermits : max given.workers 1 ≤ r.maxPermits) :
    (∃ results : List (Job × Except Decimal.Operation Outcome),
      results.map Prod.fst = JobLine.jobsIn bytes ∧
      (∃ order : List Job, order.Perm (JobLine.jobsIn bytes) ∧
        results.Perm (handleAll (settings.environment clock) settings.seed order).2) ∧
      (run program r clock files arguments).Shows results) ∧
    ∀ files' bytes', files' given.settings = files given.settings →
      files' given.jobs = some bytes' → Relation.EqvGen JobLine.Inserted bytes bytes' →
      (run program r clock files' arguments).output =
        (run program r clock files arguments).output := by
  rw [run_eq program clock h hlog hpermits]
  refine ⟨⟨_, ?_, ?_, Result.shows_outputOf _ _⟩, fun files' bytes' hsettings hjobs hinserted => ?_⟩
  · exact (Pool.finish_serial _ (le_max_right given.workers 1) settings.seed
      (JobLine.jobsIn bytes) r.schedule).1
  · obtain ⟨-, order, horder, -, hresults⟩ := Pool.finish_serial
      (settings.environment clock) (le_max_right given.workers 1) settings.seed
      (JobLine.jobsIn bytes) r.schedule
    exact ⟨order, horder, hresults.symm⟩
  · rw [run_eq program clock (h.of_files hsettings hjobs) hlog hpermits, Runtime.results,
      Runtime.results, JobLine.jobsIn_eq_of_eqvGen hinserted]

/-! ## Runs on fixed files -/

/-- A runtime that cannot read one log filter, and gives out as many permits as fit in a word. -/
def Runtime.plain (schedule : ℕ → ℕ) : Runtime where
  filter := none
  accepts := fun _ => some true
  reads := fun level => level ≠ " é=x"
  maxPermits := 2 ^ 61 - 1
  schedule

def bytesOf (cs : List Char) : List UInt8 := cs.flatMap String.utf8EncodeChar

/-- A file of settings and a file of jobs. -/
def filesOf (settings : List Char) (jobs : List UInt8) : Files := fun name =>
  if name = "settings" then some (bytesOf settings) else if name = "jobs" then some jobs else none

theorem filesOf_settings (settings : List Char) (jobs : List UInt8) :
    filesOf settings jobs "settings" = some (bytesOf settings) := rfl

theorem filesOf_jobs (settings : List Char) (jobs : List UInt8) :
    filesOf settings jobs "jobs" = some jobs := rfl

/-- A document with a tenant who has an account. -/
def opened : List Char :=
  "[tenants.t.payment_type_ids]\n[[accounts]]\ntenant = \"t\"\nid = 11\n".toList

/-- A lookup for that tenant. -/
def asking : List UInt8 :=
  bytesOf ("\x7b\"key\":1,\"type\":\"getAccountDetailsFromAms\",\"variables\":".toList ++
    "\x7b\"tenantIdentifier\":\"t\",\"iban\":\"DE89370400440532013000\"\x7d\x7d".toList)

/-- A job of a type that there is not. -/
def unsupported : List UInt8 := bytesOf "\x7b\"key\":2,\"type\":\"x\"\x7d".toList

/-- The file of both jobs. -/
def tidy : List UInt8 := asking ++ 10 :: unsupported

/-- The same with a line in front that is no JSON, one between them that is not UTF-8 and a blank
one at the end. -/
def untidy : List UInt8 :=
  bytesOf ['[', '1'] ++ 10 ::
    (asking ++ 10 :: [255] ++ 10 :: unsupported ++ 10 :: bytesOf [' ', '\r'])

theorem inserted_untidy : Relation.EqvGen JobLine.Inserted tidy untidy := by
  have hbetween : JobLine.Inserted tidy (asking ++ 10 :: [255] ++ 10 :: unsupported) :=
    .between (by decide) (Option.isNone_iff_eq_none.1 (by decide +kernel))
  have hlast : JobLine.Inserted (asking ++ 10 :: [255] ++ 10 :: unsupported)
      (asking ++ 10 :: [255] ++ 10 :: unsupported ++ 10 :: bytesOf [' ', '\r']) :=
    .last (by decide +kernel) (Option.isNone_iff_eq_none.1 (by decide +kernel))
  have hfirst : JobLine.Inserted
      (asking ++ 10 :: [255] ++ 10 :: unsupported ++ 10 :: bytesOf [' ', '\r']) untidy :=
    .first (by decide +kernel) (Option.isNone_iff_eq_none.1 (by decide +kernel))
  exact .trans _ _ _ (.rel _ _ hbetween) (.trans _ _ _ (.rel _ _ hlast) (.rel _ _ hfirst))

/-- Both files have the same lines written for them. -/
theorem run_writes_outcomes_untidy :
    ∃ settings, Loads (filesOf opened tidy) ["jobs", "--config=settings"] ⟨"jobs", "settings", 4⟩
        settings tidy ∧
      (Runtime.plain fun _ => 1).startsLog settings.logging.level ∧
      4 ≤ (Runtime.plain fun _ => 1).maxPermits ∧
      (∃ results : List (Job × Except Decimal.Operation Outcome),
        results.map Prod.fst = JobLine.jobsIn tidy ∧
        (run ⟨"run", "1"⟩ (.plain fun _ => 1) (fun _ => "") (filesOf opened tidy)
          ["jobs", "--config=settings"]).Shows results) ∧
      (run ⟨"run", "1"⟩ (.plain fun _ => 1) (fun _ => "") (filesOf opened tidy)
        ["jobs", "--config=settings"]).exitCode = 0 ∧
      Relation.EqvGen JobLine.Inserted tidy untidy ∧
      (run ⟨"run", "1"⟩ (.plain fun _ => 1) (fun _ => "") (filesOf opened untidy)
          ["jobs", "--config=settings"]).output =
        (run ⟨"run", "1"⟩ (.plain fun _ => 1) (fun _ => "") (filesOf opened tidy)
          ["jobs", "--config=settings"]).output := by
  have hloaded : (loadSettings? (filesOf opened tidy) "settings").any fun settings =>
      (Runtime.plain fun _ => 1).startsLog settings.logging.level := by
    decide +kernel
  obtain ⟨settings, hsettings, hlog⟩ := (Option.any_eq_true _ _).1 hloaded
  have hloads : Loads (filesOf opened tidy) ["jobs", "--config=settings"] ⟨"jobs", "settings", 4⟩
      settings tidy := ⟨by decide +kernel, hsettings, rfl⟩
  have hpermits : max 4 1 ≤ (Runtime.plain fun _ => 1).maxPermits := by decide
  obtain ⟨⟨results, hjobs, -, hshows⟩, hsame⟩ := run_writes_outcomes ⟨"run", "1"⟩
    (.plain fun _ => 1) (fun _ => "") hloads hlog hpermits
  have hexit : (run ⟨"run", "1"⟩ (.plain fun _ => 1) (fun _ => "") (filesOf opened tidy)
      ["jobs", "--config=settings"]).exitCode = 0 := by
    decide +kernel
  exact ⟨settings, hloads, hlog, hpermits, ⟨results, hjobs, hshows⟩, hexit, inserted_untidy,
    hsame (filesOf opened untidy) untidy (filesOf_settings _ _) (filesOf_jobs _ _) inserted_untidy⟩

/-! ## Runs in another order -/

/-- Runs that meet a condition succeed, and write what their jobs come to one after the other in the
order of the file, if their files can be read and all of these jobs get an outcome. -/
def WritesInOrder (condition : Runtime → Settings → Arguments → Prop) : Prop :=
  ∀ program r clock files arguments given settings bytes,
    Loads files arguments given settings bytes →
    (∀ x ∈ settings.handled clock bytes, ∃ outcome, x.2 = .ok outcome) →
    condition r settings given →
    (run program r clock files arguments).exitCode = 0 ∧
      (run program r clock files arguments).output = (outputOf (settings.handled clock bytes)).1

theorem exists_outcome_of_all {results : List (Job × Except Decimal.Operation Outcome)}
    (h : results.all fun x => x.2.toOption.isSome) :
    ∀ x ∈ results, ∃ outcome, x.2 = .ok outcome := by
  intro x hx
  obtain ⟨outcome, houtcome⟩ := Option.isSome_iff_exists.1 (List.all_eq_true.1 h x hx)
  exact ⟨outcome, toOption_eq_some_iff.1 houtcome⟩

theorem not_writesInOrder (files : Files) (arguments : List String) (given : Arguments)
    (bytes : List UInt8)
    {condition : Runtime → Settings → Arguments → Prop}
    [∀ r settings given, Decidable (condition r settings given)]
    (hread : Arguments.read arguments = .ok given) (hjobs : files given.jobs = some bytes)
    (hloaded : (loadSettings? files given.settings).any fun settings =>
      (settings.handled (fun _ => "") bytes).all (fun x => x.2.toOption.isSome) ∧
        condition (.plain id) settings given)
    (hfailed : (run ⟨"run", "1"⟩ (.plain id) (fun _ => "") files arguments).exitCode ≠ 0) :
    ¬WritesInOrder condition := by
  intro hall
  obtain ⟨settings, hsettings, hfacts⟩ := (Option.any_eq_true _ _).1 hloaded
  obtain ⟨hhandled, hcondition⟩ := of_decide_eq_true hfacts
  exact hfailed (hall _ _ _ files arguments given settings bytes ⟨hread, hsettings, hjobs⟩
    (exists_outcome_of_all hhandled) hcondition).1

/-- A document whose log filter cannot be read. -/
def cutting : List Char := "[logging]\nlevel = \" é=x\"\n[tenants.t.payment_type_ids]\n".toList

/-- A document with an account without money. -/
def drained : List Char :=
  "[tenants.t.payment_type_ids]\n\"S.bookOnConversionAccountInAms.".toList ++
  "ConversionAccount.WithdrawTransactionAmount\" = 1\n".toList ++
  "\"S.bookCreditedAmountToConversionAccountInReturn.".toList ++
  "ConversionAccount.DepositTransactionAmount\" = 2\n".toList ++
  "[[accounts]]\ntenant = \"t\"\nid = 11\n".toList

/-- The line of a job that withdraws ten from that account. -/
def withdrawing : List Char :=
  "\x7b\"type\":\"bookOnConversionAccountInAms\",\"variables\":\x7b".toList ++
  "\"tenantIdentifier\":\"t\",\"paymentScheme\":\"S\",".toList ++
  "\"internalCorrelationId\":\"b\",\"transactionDate\":\"d\",".toList ++
  "\"amount\":\"10\",\"transactionFeeAmount\":\"0\",".toList ++
  "\"conversionAccountAmsId\":11,\"originalPain001\":".toList ++
  "\"\x7b\\\"Document\\\":\x7b\\\"PmtInf\\\":".toList ++
  "[\x7b\\\"CdtTrfTxInf\\\":[1]\x7d]\x7d\x7d\"\x7d\x7d".toList

/-- The line of a job that deposits ten on it. -/
def depositing : List Char :=
  "\x7b\"type\":\"bookCreditedAmountToConversionAccountInReturn\",".toList ++
  "\"variables\":\x7b\"tenantIdentifier\":\"t\",\"paymentScheme\":\"S\",".toList ++
  "\"internalCorrelationId\":\"a\",\"transactionDate\":\"d\",".toList ++
  "\"amount\":\"10\",\"conversionAccountAmsId\":11,".toList ++
  "\"pacs004\":\"\x7b\\\"PmtRtr\\\":\x7b\\\"TxInf\\\":[1]\x7d\x7d\"\x7d\x7d".toList

/-- The file of both jobs, the withdrawal first. -/
def contending : List UInt8 := bytesOf withdrawing ++ 10 :: bytesOf depositing

/-- The settings that characters are read as, without a way through bytes and a text. -/
def settingsOfChars? (cs : List Char) : Option Settings :=
  let cs := Toml.dropMark cs
  ((Toml.readStatements (cs.length + 1) cs).bind Toml.assemble).bind fun v =>
    (Settings.ofToml v).toOption

theorem loadSettings?_filesOf (cs : List Char) (jobs : List UInt8) :
    loadSettings? (filesOf cs jobs) "settings" = settingsOfChars? cs := by
  have hdecode : String.fromUTF8? ⟨(bytesOf cs).toArray⟩ = some (String.ofList cs) := by
    rw [Text.fromUTF8?_eq_some_iff, Text.toList_toByteArray, String.toList_ofList, bytesOf]
  rw [loadSettings?, filesOf_settings, Option.bind_eq_bind, Option.bind_some, hdecode,
    Option.bind_eq_bind, Option.bind_some, Settings.parse, Toml.parse?, String.toList_ofList,
    settingsOfChars?]
  cases (Toml.readStatements ((Toml.dropMark cs).length + 1) (Toml.dropMark cs)).bind
    Toml.assemble <;> rfl

def settled (b : Book) (next : ℕ) (plan : Plan) : Except Failure Progress :=
  Progress.settleAll .standard plan.outline.statement 0 ⟨b, next, []⟩ plan.postings

def isRefused : Except Failure Progress → Bool
  | .error (.error _) => true
  | _ => false

theorem exists_of_isRefused {x : Except Failure Progress} (h : isRefused x) :
    ∃ e, x = .error (.error e) := by
  rcases x with (e | operation) | r
  · exact ⟨e, rfl⟩
  · cases h
  · cases h

theorem handle_of_settled {s : Settings} {clock : Clock} {l : Ledger} {job : Job}
    {stage : BookingStage} {plan : Plan} {b : Book} (hledger : s.ledger = .standard)
    (htype : job.type = stage.jobType)
    (hplan : stage.plan (s.environment clock) job.vars = .ok plan)
    (hbook : l.books.find? plan.outline.tenant.name = some b) (hroom : l.HasRoom 4) :
    handle (s.environment clock) l job =
      match settled b l.next plan with
      | .ok p => (⟨l.books.insert plan.outline.tenant.name p.book, p.next⟩,
          .ok (.completed (plan.output job.vars)))
      | .error failure => (l, Outcome.ofResult stage.failureSignal (.error failure)) := by
  have hsettings : (s.environment clock).settings = .standard := hledger
  rw [handle_of_settleAll (hsettings ▸ LedgerSettings.addressable_standard) htype hplan hbook
    (hroom.mono (BookingStage.length_postings_le hplan)), hsettings]
  rfl

/-- The account can bear the withdrawal only after the deposit. -/
theorem handle_contending :
    ∃ (s : Settings) (w d : Job) (l l' : Ledger) (signal : String) (e : Error)
      (done done' : Variables),
      settingsOfChars? drained = some s ∧ (Runtime.plain id).startsLog s.logging.level ∧
      JobLine.jobsIn contending = [w, d] ∧ w ≠ d ∧
      handle (s.environment fun _ => "") s.seed w = (s.seed, .ok (.ofError signal e)) ∧
      handle (s.environment fun _ => "") s.seed d = (l, .ok (.completed done)) ∧
      handle (s.environment fun _ => "") l w = (l', .ok (.completed done')) := by
  have hfacts : (settingsOfChars? drained).any fun s =>
      (Runtime.plain id).startsLog s.logging.level ∧ s.ledger = .standard ∧ s.seed.HasRoom 4 ∧
      (s.seed.books.find? "t").any fun b =>
      (JobLine.jobOfChars? withdrawing).any fun w => (JobLine.jobOfChars? depositing).any fun d =>
      w.type = BookingStage.conversionDebit.jobType ∧
      d.type = BookingStage.conversionReturn.jobType ∧
      (BookingStage.conversionDebit.plan (s.environment fun _ => "") w.vars).toOption.any fun p =>
      (BookingStage.conversionReturn.plan (s.environment fun _ => "") d.vars).toOption.any fun q =>
        p.outline.tenant.name = "t" ∧ q.outline.tenant.name = "t" ∧
        isRefused (settled b s.seed.next p) ∧
        (settled b s.seed.next q).toOption.any fun r =>
          (Ledger.mk (s.seed.books.insert q.outline.tenant.name r.book) r.next).HasRoom 4 ∧
          (settled r.book r.next p).toOption.isSome := by
    decide +kernel
  obtain ⟨s, hs, hfacts⟩ := (Option.any_eq_true _ _).1 hfacts
  obtain ⟨hlog, hledger, hseed, hfacts⟩ := of_decide_eq_true hfacts
  obtain ⟨b, hb, hfacts⟩ := (Option.any_eq_true _ _).1 hfacts
  obtain ⟨w, hw, hfacts⟩ := (Option.any_eq_true _ _).1 hfacts
  obtain ⟨d, hd, hfacts⟩ := (Option.any_eq_true _ _).1 hfacts
  obtain ⟨hwtype, hdtype, hfacts⟩ := of_decide_eq_true hfacts
  obtain ⟨p, hp, hfacts⟩ := exists_of_any hfacts
  obtain ⟨q, hq, hfacts⟩ := exists_of_any hfacts
  obtain ⟨hptenant, hqtenant, hrefused, hfacts⟩ := of_decide_eq_true hfacts
  obtain ⟨r, hr, hfacts⟩ := exists_of_any hfacts
  obtain ⟨hroom, hsettled⟩ := of_decide_eq_true hfacts
  obtain ⟨e, he⟩ := exists_of_isRefused hrefused
  obtain ⟨r', hr'⟩ := Option.isSome_iff_exists.1 hsettled
  have hjobs : JobLine.jobsIn contending = [w, d] := by
    rw [contending, JobLine.jobsIn_append, JobLine.jobsIn_of_not_mem (by decide +kernel),
      JobLine.jobsIn_of_not_mem (by decide +kernel), bytesOf, bytesOf, JobLine.jobIn?_flatMap,
      JobLine.jobIn?_flatMap, hw, hd]
    rfl
  have hne : w ≠ d := by
    rintro rfl
    exact absurd (hwtype.symm.trans hdtype) (by decide)
  have hbook : (s.seed.books.insert q.outline.tenant.name r.book).find? p.outline.tenant.name =
      some r.book := by
    rw [hptenant, hqtenant]
    exact Dict.find?_insert_self ..
  refine ⟨s, w, d, ⟨s.seed.books.insert q.outline.tenant.name r.book, r.next⟩,
    ⟨(s.seed.books.insert q.outline.tenant.name r.book).insert p.outline.tenant.name r'.book,
      r'.next⟩,
    (Stage.booking .conversionDebit).failureSignal, e, q.output d.vars, p.output w.vars,
    hs, hlog, hjobs, hne, ?_, ?_, ?_⟩
  · rw [handle_of_settled hledger hwtype hp (hptenant ▸ hb) hseed, he]
    rfl
  · rw [handle_of_settled hledger hdtype hq (hqtenant ▸ hb) hseed, hr]
  · rw [handle_of_settled hledger hwtype hp hbook hroom, toOption_eq_some_iff.1 hr']

theorem line_completed_ne (job : Job) (vars : Variables) (signal : String) (kind : FailureKind)
    (reason : String) :
    Outcome.line job (.completed vars) ≠ Outcome.line job (.failed signal kind reason) := by
  intro h
  have hcompleted : (Outcome.line job (.completed vars)).toList.take 12 =
      '\x7b' :: "\"status\":\"c".toList := by
    rw [Outcome.line, Json.print, String.toList_append, String.toList_ofList]
    rfl
  have hfailed : (Outcome.line job (.failed signal kind reason)).toList.take 12 =
      '\x7b' :: "\"status\":\"f".toList := by
    rw [Outcome.line, Json.print, String.toList_append, String.toList_ofList]
    rfl
  rw [h, hfailed] at hcompleted
  exact absurd hcompleted (by decide)

/-- The results of two jobs are known from what they are and from which job is the first. -/
theorem results_eq_of_perm {α β : Type} {a b : α} {x y : β} {results : List (α × β)} (hne : a ≠ b)
    (hfst : results.map Prod.fst = [a, b]) (hperm : [(b, y), (a, x)].Perm results) :
    results = [(a, x), (b, y)] := by
  match results, hfst with
  | [(_, x'), (_, y')], rfl =>
    have hx : (a, x) ∈ [(a, x'), (b, y')] :=
      hperm.mem_iff.1 (List.mem_cons_of_mem _ List.mem_cons_self)
    have hy : (b, y) ∈ [(a, x'), (b, y')] := hperm.mem_iff.1 List.mem_cons_self
    obtain rfl : x = x' := by simpa [hne] using hx
    obtain rfl : y = y' := by simpa [hne.symm] using hy
    rfl

/-- On some schedule the withdrawal finds the deposit, although it comes first in the file. -/
theorem exists_output_contending_ne :
    ∃ (s : Settings) (schedule : ℕ → ℕ),
      Loads (filesOf drained contending) ["jobs", "--config=settings"]
        ⟨"jobs", "settings", 4⟩ s contending ∧
      (Runtime.plain schedule).startsLog s.logging.level ∧
      (∀ x ∈ s.handled (fun _ => "") contending, ∃ outcome, x.2 = .ok outcome) ∧
      (run ⟨"run", "1"⟩ (.plain schedule) (fun _ => "") (filesOf drained contending)
        ["jobs", "--config=settings"]).output ≠
          (outputOf (s.handled (fun _ => "") contending)).1 := by
  obtain ⟨s, w, d, l, l', signal, e, done, done', hs, hlog, hjobs, hne, hrefused, hdeposited,
    hwithdrawn⟩ := handle_contending
  have hloads : Loads (filesOf drained contending) ["jobs", "--config=settings"]
      ⟨"jobs", "settings", 4⟩ s contending :=
    ⟨by decide +kernel, (loadSettings?_filesOf _ _).trans hs, rfl⟩
  have hinOrder : s.handled (fun _ => "") contending =
      [(w, .ok (.ofError signal e)), (d, .ok (.completed done))] := by
    rw [Settings.handled, hjobs]
    simp only [handleAll, hrefused, hdeposited]
  have hswapped : (handleAll (s.environment fun _ => "") s.seed [d, w]).2 =
      [(d, .ok (.completed done)), (w, .ok (.completed done'))] := by
    simp only [handleAll, hdeposited, hwithdrawn]
  obtain ⟨schedule, -, hperm⟩ := Pool.exists_schedule_of_perm (s.environment fun _ => "")
    (le_max_right 4 1) s.seed (List.Perm.swap w d [])
  obtain ⟨hfst, -⟩ := Pool.finish_serial (s.environment fun _ => "") (le_max_right 4 1)
    s.seed [w, d] schedule
  rw [hswapped] at hperm
  have hresults : (Runtime.plain schedule).results s (fun _ => "") (max 4 1) contending =
      [(w, .ok (.completed done')), (d, .ok (.completed done))] := by
    rw [Runtime.results, hjobs]
    exact results_eq_of_perm hne hfst hperm
  have hlog' : (Runtime.plain schedule).startsLog s.logging.level := hlog
  have hpermits : max 4 1 ≤ (Runtime.plain schedule).maxPermits :=
    (by decide : 4 ≤ 2 ^ 61 - 1)
  refine ⟨s, schedule, hloads, hlog', by simp [hinOrder], fun hlines => ?_⟩
  rw [run_eq _ _ hloads hlog' hpermits, hresults, hinOrder] at hlines
  exact line_completed_ne _ _ _ _ _ (List.cons.inj hlines).1

/-- Not every run succeeds and writes what its jobs come to in the order of the file: a log that
cannot be started or permits that cannot be given out stop it, and where both are at hand, jobs that
share an account may come to something else together. -/
theorem not_all_runs_in_order :
    ¬WritesInOrder (fun _ _ _ => True) ∧
    ¬WritesInOrder (fun r _ given => max given.workers 1 ≤ r.maxPermits) ∧
    ¬WritesInOrder (fun r settings _ => r.startsLog settings.logging.level) ∧
    ¬WritesInOrder (fun r settings given => r.startsLog settings.logging.level ∧
      max given.workers 1 ≤ r.maxPermits) := by
  obtain ⟨s, schedule, hloads, hlog, hhandled, hne⟩ := exists_output_contending_ne
  refine ⟨fun hall => ?_, ?_, ?_, fun hall => ?_⟩
  · exact hne (hall _ _ _ _ _ _ _ _ hloads hhandled trivial).2
  · exact not_writesInOrder (filesOf cutting unsupported) ["jobs", "--config=settings"]
      ⟨"jobs", "settings", 4⟩ unsupported (by decide +kernel) rfl (by decide +kernel)
      (by decide +kernel)
  · exact not_writesInOrder (filesOf opened unsupported)
      ["jobs", "--config=settings", "--workers=2305843009213693952"]
      ⟨"jobs", "settings", 2 ^ 61⟩ unsupported (by decide +kernel) rfl (by decide +kernel)
      (by decide +kernel)
  · exact hne (hall _ _ _ _ _ _ _ _ hloads hhandled
      ⟨hlog, (by decide : 4 ≤ 2 ^ 61 - 1)⟩).2

end Cli

end PaymentBooking
