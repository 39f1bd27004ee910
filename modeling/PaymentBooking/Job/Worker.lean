import PaymentBooking.Job.Outcome
import PaymentBooking.Lookup

/-! # Handling jobs

A job is handled by the stage of its type. Nothing is tried twice.
-/

namespace PaymentBooking

def unsupportedSignal : String := "Error_JobTypeNotSupported"

namespace Worker

/-- Does what a stage does. Gives the ledger as it is left, and the variables to report. -/
def perform (env : Environment) (l : Ledger) (vars : Variables) :
    Stage → Ledger × Except Failure Variables
  | .accountLookup => (l, (AccountLookup.run env.directory l vars).mapError .error)
  | stage => stage.book env l vars

/-- Handles a job. Gives the ledger as it is left, and the outcome. -/
def handle (env : Environment) (l : Ledger) (job : Job) :
    Ledger × Except Decimal.Operation Outcome :=
  match Stage.ofJobType? job.type with
  | none => (l, .ok (.ofError unsupportedSignal (.unknownStage job.type)))
  | some stage =>
    let (l, result) := perform env l job.vars stage
    (l, Outcome.ofResult stage.failureSignal result)

def handleAll (env : Environment) (l : Ledger) :
    List Job → Ledger × List (Job × Except Decimal.Operation Outcome)
  | [] => (l, [])
  | job :: jobs =>
    let (l, outcome) := handle env l job
    let (l, outcomes) := handleAll env l jobs
    (l, (job, outcome) :: outcomes)

end Worker

end PaymentBooking
