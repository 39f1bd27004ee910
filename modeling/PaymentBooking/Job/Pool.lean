import PaymentBooking.Job.Worker

/-! # Jobs at work together

Every job has a task, and so many tasks at a time have a permit to work. With a permit a job is
planned, for which nothing is asked of the ledger. Then its task waits for the ledger: it needs it
alone to submit a batch, and shares it with others to look accounts up. The permit and the ledger
are given back when the job is done, also if it has failed or stopped.

Which task goes on next is open. A schedule names one for each step, and if that one cannot go on,
the first that can does.
-/

namespace PaymentBooking

/-- How far a task has come. -/
inductive Phase where
  /-- It has no permit yet. -/
  | waiting
  | begun
  /-- It waits for the ledger to submit the batch of a plan. -/
  | planned (signal : String) (plan : Plan)
  /-- It has the ledger to itself and works on a copy; the items from an index on are left. -/
  | submitting (signal : String) (plan : Plan) (copy : Progress) (index : Nat)
    (rest : List BatchItem)
  /-- It waits for the ledger to look up an IBAN of a tenant. -/
  | asking (tenant : String) (iban : Iban)
  /-- It has the ledger, maybe with other lookups. -/
  | reading (tenant : String) (iban : Iban)
  | done (result : Except Decimal.Operation Outcome)

namespace Phase

def hasPermit : Phase → Bool
  | .waiting => false
  | .done _ => false
  | _ => true

def isSubmitting : Phase → Bool
  | .submitting .. => true
  | _ => false

def isReading : Phase → Bool
  | .reading .. => true
  | _ => false

def result? : Phase → Option (Except Decimal.Operation Outcome)
  | .done result => some result
  | _ => none

/-- What a job comes to before it needs the ledger. -/
def prepare (env : Environment) (job : Job) : Phase :=
  match Stage.ofJobType? job.type with
  | none => .done (.ok (.ofError unsupportedSignal (.unknownStage job.type)))
  | some .accountLookup =>
    match AccountLookup.subject env.directory job.vars with
    | .ok (tenant, iban) => .asking tenant iban
    | .error e => .done (.ok (.ofError Stage.accountLookup.failureSignal e))
  | some (.booking stage) =>
    match stage.plan env job.vars with
    | .ok plan => .planned (Stage.booking stage).failureSignal plan
    | .error e => .done (.ok (.ofError (Stage.booking stage).failureSignal e))

/-- The next step of a task, and what it makes of the ledger. -/
def step (env : Environment) (l : Ledger) (job : Job) : Phase → Ledger × Phase
  | .waiting => (l, .begun)
  | .begun => (l, prepare env job)
  | .planned signal plan =>
    let batch := plan.batch env.settings
    match l.book batch.tenant with
    | .ok b => (l, .submitting signal plan (Submission.begin l b).copy 0 batch.items)
    | .error e => (l, .done (Outcome.ofResult signal (.error (.error e))))
  | .submitting signal plan copy index (i :: rest) =>
    match (Submission.mk l copy).item index i with
    | (s, none) => (s.ledger, .submitting signal plan s.copy (index + 1) rest)
    | (s, some failure) => (s.ledger, .done (Outcome.ofResult signal (.error failure)))
  | .submitting signal plan copy _ [] =>
    ((Submission.mk l copy).commit (plan.batch env.settings).tenant,
      .done (Outcome.ofResult signal (.ok (plan.output job.vars))))
  | .asking tenant iban => (l, .reading tenant iban)
  | .reading tenant iban =>
    (l, .done (Outcome.ofResult Stage.accountLookup.failureSignal
      (((l.lookup tenant iban).map (AccountLookup.output job.vars)).mapError .error)))
  | .done result => (l, .done result)

/-- How many steps are left at most once a job is prepared. -/
def stepsLeft (env : Environment) : Phase → Nat
  | .planned _ plan => (plan.batch env.settings).items.length + 2
  | .submitting _ _ _ _ rest => rest.length + 1
  | .asking _ _ => 2
  | .reading _ _ => 1
  | _ => 0

end Phase

/-- A job, and how far it has come. -/
structure Task where
  job : Job
  phase : Phase

namespace Task

def result? (t : Task) : Option (Job × Except Decimal.Operation Outcome) :=
  t.phase.result?.map (t.job, ·)

/-- How many steps a task has left at most. -/
def stepsLeft (env : Environment) (t : Task) : Nat :=
  match t.phase with
  | .waiting => (Phase.prepare env t.job).stepsLeft env + 2
  | .begun => (Phase.prepare env t.job).stepsLeft env + 1
  | phase => phase.stepsLeft env

end Task

/-- The ledger and the tasks that share it. -/
structure Pool where
  ledger : Ledger
  tasks : List Task

namespace Pool

def start (l : Ledger) (jobs : List Job) : Pool := ⟨l, jobs.map fun job => ⟨job, .waiting⟩⟩

/-- Whether a task in a phase can go on beside the others. -/
def admits (workers : Nat) (s : Pool) : Phase → Bool
  | .waiting => s.tasks.countP (·.phase.hasPermit) < workers
  | .planned .. => !s.tasks.any fun t => t.phase.isSubmitting || t.phase.isReading
  | .asking .. => !s.tasks.any (·.phase.isSubmitting)
  | .done _ => false
  | _ => true

/-- The pool after the next step of a task, if there is such a task and it can go on. -/
def advance? (env : Environment) (workers : Nat) (s : Pool) (i : Nat) : Option Pool := do
  let t ← s.tasks[i]?
  if s.admits workers t.phase then
    let (l, phase) := t.phase.step env s.ledger t.job
    some ⟨l, s.tasks.set i { t with phase }⟩
  else none

/-- The pool after a step of the task that is named, or else of the first that can go on. -/
def turn (env : Environment) (workers : Nat) (s : Pool) (i : Nat) : Pool :=
  ((i :: List.range s.tasks.length).findSome? (s.advance? env workers)).getD s

/-- The pool after so many steps; a schedule names the task by how many steps are left. -/
def run (env : Environment) (workers : Nat) (schedule : Nat → Nat) : Nat → Pool → Pool
  | 0, s => s
  | n + 1, s => run env workers schedule n (s.turn env workers (schedule n))

def stepsLeft (env : Environment) (s : Pool) : Nat :=
  s.tasks.foldr (fun t n => t.stepsLeft env + n) 0

def finish (env : Environment) (workers : Nat) (schedule : Nat → Nat) (s : Pool) : Pool :=
  s.run env workers schedule (s.stepsLeft env)

/-- What has become of the jobs that are done, in the order of all jobs. -/
def results (s : Pool) : List (Job × Except Decimal.Operation Outcome) :=
  s.tasks.filterMap Task.result?

end Pool

end PaymentBooking
