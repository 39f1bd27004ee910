import PaymentBooking.Booking.Outline
import PaymentBooking.Ledger.Basic

/-! # Plans

A plan is all that a booking asks of the ledger, worked out before anything is submitted: the
postings, and from them the batch. A job that cannot be planned has not touched the ledger.
-/

namespace PaymentBooking

/-- What planning needs to know beside the job: the settings of the ledger, the tenants and
today's date. -/
structure Environment where
  settings : LedgerSettings
  directory : TenantDirectory
  clock : Clock

/-- An outline whose legs have their payment types. -/
structure Plan where
  outline : Outline
  postings : List Posting

namespace Outline

def plan (o : Outline) : Except Error Plan := do
  let postings ← o.legs.mapM fun leg => leg.post o.tenant o.scheme o.stage
  .ok ⟨o, postings⟩

end Outline

namespace BookingStage

def outline (stage : BookingStage) (env : Environment) (vars : Variables) :
    Except Error Outline :=
  match stage with
  | .technicalCredit => do (← TechnicalCreditRequest.read vars).outline env.directory
  | .conversionCredit => do (← ConversionCreditRequest.read vars).outline env.directory stage
  | .conversionRecall => do (← ConversionCreditRequest.read vars).outline env.directory stage
  | .conversionReturn => do (← ConversionCreditRequest.read vars).outline env.directory stage
  | .conversionDebit => do (← ConversionDebitRequest.read vars).outline env.directory
  | .revert => do
    (← RevertRequest.read vars).outline env.settings env.directory env.clock stage
  | .revertWithoutFee => do
    (← RevertRequest.read vars).outline env.settings env.directory env.clock stage
  | .disposalDeposit => do
    (← DisposalDepositRequest.read vars).outline env.settings env.directory env.clock

def plan (stage : BookingStage) (env : Environment) (vars : Variables) :
    Except Error Plan := do
  (← stage.outline env vars).plan

end BookingStage

namespace Plan

def stage (p : Plan) : BookingStage := p.outline.stage

def correlationId (p : Plan) : String := p.outline.statement.correlationId

def batch (p : Plan) (settings : LedgerSettings) : Batch where
  tenant := p.outline.tenant.name
  items := p.postings.flatMap (Posting.items settings p.outline.date p.outline.statement)

/-- The variables of a job with those that planning worked out. -/
def output (p : Plan) (vars : Variables) : Variables :=
  vars.insertMany p.outline.resolved.toList

/-- Submits the batch. Gives the ledger as it is left, and the variables to report. -/
def submit (p : Plan) (env : Environment) (l : Ledger) (vars : Variables) :
    Ledger × Except Failure Variables :=
  let batch := p.batch env.settings
  let (l, receipt) := l.submit batch.tenant batch.items
  (l, receipt.map fun _ => p.output vars)

end Plan

namespace Stage

def plan (stage : Stage) (env : Environment) (vars : Variables) : Except Error Plan :=
  match stage with
  | .booking stage => stage.plan env vars
  | .accountLookup => .error (.invalid (.noBooking stage.jobType))

def book (stage : Stage) (env : Environment) (l : Ledger) (vars : Variables) :
    Ledger × Except Failure Variables :=
  match stage.plan env vars with
  | .ok plan => plan.submit env l vars
  | .error e => (l, .error (.error e))

end Stage

end PaymentBooking
