import PaymentBooking.Job.Basic
import PaymentBooking.Json.Writer
import PaymentBooking.Ledger.Basic

/-! # Outcomes

Every job gets an outcome: it is completed, or it is left to a person with the signal of its stage.
A balance beyond all decimals stops a job without one. The outcome of a job is written on one line
of JSON, with the key and the type of the job.
-/

namespace PaymentBooking

/-- What is reported about a job. -/
inductive Outcome where
  /-- The job is done; its variables with those that were worked out. -/
  | completed (vars : Variables)
  /-- The job is left to a person. -/
  | failed (signal : String) (kind : FailureKind) (reason : String)

namespace Outcome

def ofError (signal : String) (e : Error) : Outcome := .failed signal e.kind e.message

/-- What becomes of a job by what its stage comes to. -/
def ofResult (signal : String) : Except Failure Variables → Except Decimal.Operation Outcome
  | .ok output => .ok (.completed output)
  | .error (.error e) => .ok (.ofError signal e)
  | .error (.overflow operation) => .error operation

def record (job : Job) : Outcome → Json
  | .completed vars =>
    .object
      [("status", .text "completed"), ("key", .number (.ofUInt64 job.key)),
       ("type", .text job.type), ("variables", .ofDict vars)]
  | .failed signal kind reason =>
    .object
      [("status", .text "failed"), ("key", .number (.ofUInt64 job.key)),
       ("type", .text job.type), ("signal", .text signal), ("kind", .text kind.name),
       ("reason", .text reason)]

def line (job : Job) (o : Outcome) : String := (o.record job).print ++ "\n"

end Outcome

end PaymentBooking
