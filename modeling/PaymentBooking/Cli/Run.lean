import PaymentBooking.Cli.Help
import PaymentBooking.Job.Lines
import PaymentBooking.Job.Pool
import PaymentBooking.Settings.Document

/-! # Runs

A run reads the settings, seeds the ledger, lets the jobs of a file be handled together and writes
one line for each in the order of the file. A line that is no job is reported and passed over. A run
whose settings or jobs cannot be read is fatal, and so is a job that stops without an outcome:
nothing is written from it on. A run that cannot start its log or give out so many permits stops
before it looks for the jobs. A run can also be asked for help or for the version instead.
-/

namespace PaymentBooking.Cli

/-- What a run leaves to the libraries that it uses and to its surroundings. -/
structure Runtime where
  /-- The log filter that the surroundings set. -/
  filter : Option String
  /-- Whether a log filter is accepted as it stands, if it can be read to its end. -/
  accepts : String → Option Bool
  /-- Whether a log filter can be read to its end with what is wrong in it passed over. -/
  reads : String → Bool
  /-- The most permits that can be given out at a time. -/
  maxPermits : Nat
  /-- Which task goes on, by the steps that are left. -/
  schedule : Nat → Nat

/-- Whether the log can be started: with the filter of the surroundings, or if that is missing or
wrong, with the one of the settings. -/
def Runtime.startsLog (r : Runtime) (level : String) : Bool :=
  match r.filter.map r.accepts with
  | some none => false
  | some (some true) => true
  | _ => r.reads level

/-- What a run leaves behind: an exit code, the text of its output, and reports of lines that are
no jobs. -/
structure Result where
  exitCode : Nat
  output : List String
  reports : List String
deriving DecidableEq

abbrev Files := String → Option (List UInt8)

def Result.stopped (exitCode : Nat) : Result := ⟨exitCode, [], []⟩

def report (line : JobLine) : Option String :=
  match line.job with
  | .ok _ => none
  | .error e =>
    some ("Error reading job on line " ++ toString line.number ++ ": " ++ e.message)

def jobOf? (line : JobLine) : Option Job :=
  match line.job with
  | .ok job => some job
  | .error _ => none

/-- The lines of outcomes up to the first job that stopped without one, and whether all jobs had
one. -/
def outputOf : List (Job × Except Decimal.Operation Outcome) → List String × Bool
  | [] => ([], true)
  | (job, .ok outcome) :: rest =>
    let (lines, complete) := outputOf rest
    (outcome.line job :: lines, complete)
  | (_, .error _) :: _ => ([], false)

def runJobs (r : Runtime) (settings : Settings) (clock : Clock) (workers : Nat)
    (jobs : List UInt8) : Result :=
  let lines := JobLine.readAll jobs
  let env : Environment := ⟨settings.ledger, settings.directory, clock⟩
  let pool := (Pool.start settings.seed (lines.filterMap jobOf?)).finish env workers r.schedule
  let (output, complete) := outputOf pool.results
  ⟨if complete then 0 else 1, output, lines.filterMap report⟩

def loadSettings? (files : Files) (name : String) : Option Settings := do
  let bytes ← files name
  let text ← String.fromUTF8? ⟨bytes.toArray⟩
  (Settings.parse text).toOption

def runArguments (r : Runtime) (clock : Clock) (files : Files) (arguments : Arguments) : Result :=
  match loadSettings? files arguments.settings with
  | none => .stopped 1
  | some settings =>
    let workers := max arguments.workers 1
    if !r.startsLog settings.logging.level || r.maxPermits < workers then .stopped 101
    else
      match files arguments.jobs with
      | none => .stopped 1
      | some jobs => runJobs r settings clock workers jobs

def run (program : Program) (r : Runtime) (clock : Clock) (files : Files)
    (arguments : List String) : Result :=
  match Arguments.read arguments with
  | .error stop => ⟨stop.exitCode, stop.output program, []⟩
  | .ok arguments => runArguments r clock files arguments

end PaymentBooking.Cli
