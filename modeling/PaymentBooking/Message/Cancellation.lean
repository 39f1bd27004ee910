import PaymentBooking.Calendar.Reading
import PaymentBooking.Message.Entry

/-! # References to cancelled payments

A cancellation request names the payment it is about by the bank of its debtor, the day of its
creation and its end-to-end id. Together they are the correlation id of that payment.
-/

namespace PaymentBooking

/-- The payment that a cancellation is about. -/
structure CancellationReference where
  debtorBank : String
  creationDate : Date
  endToEndId : String
deriving DecidableEq

namespace CancellationReference

def correlationId (r : CancellationReference) : String :=
  r.debtorBank ++ "_" ++ r.creationDate.compact ++ "_" ++ r.endToEndId

def present {α : Type} (value : Option α) (what : String) : Except MessageFault α :=
  match value with
  | some a => .ok a
  | none => .error (.lacks .camt056 what)

def ofTransaction (node : Json) : Except MessageFault CancellationReference := do
  let bank ← present
    (Message.textAt? node ["OrgnlTxRef", "DbtrAgt", "FinInstnId", "BIC"] <|>
      Message.textAt? node ["OrgnlTxRef", "DbtrAgt", "FinInstnId", "BICFI"])
    "the original debtor agent BIC"
  let date ← present
    ((Message.textAt? node ["OrgnlGrpInf", "OrgnlCreDtTm"]).bind Calendar.dayOf?)
    "a valid original creation date"
  let id ← present (Message.textAt? node ["OrgnlEndToEndId"]) "the original end-to-end id"
  .ok ⟨bank, date, id⟩

def ofMessage (raw : String) : Except MessageFault CancellationReference :=
  (Message.transaction .camt056 raw).bind ofTransaction

end CancellationReference

end PaymentBooking
