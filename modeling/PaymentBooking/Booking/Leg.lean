import PaymentBooking.Json.Writer
import PaymentBooking.Ledger.Address
import PaymentBooking.LedgerSettings
import PaymentBooking.Stage
import PaymentBooking.Tenant

/-! # Legs

A leg moves one part of a payment on one account. With what its tenant configures for it a leg is
a posting, which makes two requests to the ledger: the transaction, and a detail for the statement
that refers to the transaction.
-/

namespace PaymentBooking

/-- One movement of money. -/
structure Leg where
  account : Int64
  role : AccountRole
  action : LedgerAction
  part : LegPart
  amount : Amount
  purpose : Option String
deriving DecidableEq

/-- What the details of all legs of a booking have in common. -/
structure Statement where
  correlationId : String
  groupId : Option String
  /-- The written document of the payment. -/
  document : String
  party : Party
deriving DecidableEq

/-- A leg with its configured payment type and code. -/
structure Posting where
  leg : Leg
  paymentType : Int64
  code : Option String
deriving DecidableEq

def Leg.key (l : Leg) (scheme : String) (stage : BookingStage) : OperationKey :=
  ⟨scheme, stage.configured.jobType, l.role.segment, actionSegment l.action l.part⟩

def Leg.post (l : Leg) (tenant : Tenant) (scheme : String) (stage : BookingStage) :
    Except Error Posting := do
  let key := l.key scheme stage
  let paymentType ← tenant.paymentType key
  .ok ⟨l, paymentType, tenant.code? key⟩

namespace Statement

/-- The columns of a detail that have a value; the rest are left out. -/
def columns (s : Statement) (p : Posting) : List (String × String) :=
  [("internal_correlation_id", some s.correlationId),
   ("structured_transaction_details", some s.document),
   ("partner_account_iban", s.party.iban),
   ("payment_type_code", p.code),
   ("transaction_group_id", s.groupId),
   ("partner_name", s.party.name),
   ("remittance_information", s.party.remittance),
   ("category_purpose_code", p.leg.purpose)].filterMap fun c => c.2.map fun v => (c.1, v)

def row (s : Statement) (p : Posting) : Json :=
  .object ((s.columns p).map fun c => (c.1, .text c.2))

end Statement

namespace Posting

def transactionBody (settings : LedgerSettings) (date : String) (p : Posting) : Json :=
  .object
    [("transactionDate", .text date),
     ("transactionAmount", .text p.leg.amount.value.text),
     ("paymentTypeId", .ofInt64 p.paymentType),
     ("note", .text ""),
     ("dateFormat", .text settings.dateFormat),
     ("locale", .text settings.locale)]

def transactionItem (settings : LedgerSettings) (date : String) (p : Posting) : BatchItem where
  address := Address.ofTransaction settings.relativeBase p.leg.account p.leg.action
  body := (p.transactionBody settings date).print
  dependent := false

def detailItem (settings : LedgerSettings) (statement : Statement) (p : Posting) : BatchItem where
  address := Address.ofDetail settings.detailTable
  body := (statement.row p).print
  dependent := true

def items (settings : LedgerSettings) (date : String) (statement : Statement) (p : Posting) :
    List BatchItem :=
  [p.transactionItem settings date, p.detailItem settings statement]

end Posting

end PaymentBooking
