import PaymentBooking.Booking.Leg
import PaymentBooking.Message.Cancellation
import PaymentBooking.Request

/-! # Outlines of bookings

What each stage books: the legs in their order, the date, and the statement that goes with them.
An outline says nothing yet about payment types.
-/

namespace PaymentBooking

/-- What a stage books for a job. -/
structure Outline where
  stage : BookingStage
  tenant : Tenant
  scheme : String
  date : String
  statement : Statement
  legs : List Leg
  /-- The variables that were worked out and are reported back. -/
  resolved : Variables

/-- The amount and, if one is charged, the fee that go the same way on one account. -/
def Leg.withFee (account : Int64) (role : AccountRole) (action : LedgerAction) (amount : Amount)
    (purpose : Option String) (fee : Option Amount) (feePurpose : Option String) : List Leg :=
  ⟨account, role, action, .amount, amount, purpose⟩ ::
    (fee.map fun f => ⟨account, role, action, .fee, f, feePurpose⟩).toList

/-- The way of the money when an outgoing payment is undone: each role of the payment with the
opposite of what the payment did. -/
def Leg.undone (conversion disposal : Int64) (amount : Amount) (purpose : Option String)
    (fee : Option Amount) (feePurpose : Option String) : List Leg :=
  Leg.withFee conversion .conversion (LedgerAction.inverse .deposit) amount purpose fee
      feePurpose ++
    Leg.withFee disposal .disposal (LedgerAction.inverse .withdrawal) amount purpose fee feePurpose

/-- The value of a variable that a stage cannot do without. -/
def presentVariable {α : Type} (name : String) (value : Option α) : Except Error α :=
  match value with
  | some a => .ok a
  | none => .error (.missingVariable name)

namespace BookingContext

def requiredCorrelationId (c : BookingContext) : Except Error String :=
  presentVariable "internalCorrelationId" c.correlationId

end BookingContext

def readEntry (kind : MessageKind) (raw : String) (direction : Option Direction) :
    Except Error StatementEntry :=
  (Message.entry kind raw direction).mapError .undecodable

def StatementEntry.statement (e : StatementEntry) (correlationId : String)
    (groupId : Option String) : Statement :=
  ⟨correlationId, groupId, e.payload.print, e.party⟩

namespace Party

def withIbanIfNone (p : Party) (iban : Option String) : Party := { p with iban := p.iban <|> iban }

def overrideIban (p : Party) (iban : Option String) : Party := { p with iban := iban <|> p.iban }

end Party

namespace TechnicalCreditRequest

/-- The credited amount leaves the technical account of the case; the counterparty is not
shown. -/
def outline (directory : TenantDirectory) (r : TechnicalCreditRequest) : Except Error Outline := do
  let c := r.context
  let tenant ← directory.resolve c.tenant
  let id ← c.requiredCorrelationId
  let account ← tenant.technicalAccount c.scheme r.case
  let entry ← readEntry .pacs008 r.pacs008 none
  .ok {
    stage := .technicalCredit
    tenant
    scheme := c.scheme
    date := r.date
    statement := { entry.statement id c.groupId with party := .unknown }
    legs := [⟨account, .technical r.case, .withdrawal, .amount, r.amount, c.purpose⟩]
    resolved := .ofList [("technicalAccountAmsId", .ofInt64 account)] }

end TechnicalCreditRequest

namespace ConversionCreditRequest

/-- The entry of the credit that the request is about. -/
def creditEntry (r : ConversionCreditRequest) : Except Error StatementEntry := do
  readEntry .pacs008 (← presentVariable "originalPacs008" r.pacs008) (some .credit)

/-- The entry of a return: the document of the returned credit, if it is still at hand, with the
counterparty of the return. -/
def returnEntry (r : ConversionCreditRequest) : Except Error StatementEntry := do
  let returned ← readEntry .pacs004 (← presentVariable "pacs004" r.pacs004) (some .credit)
  match r.pacs008 with
  | some raw =>
    let credit ← readEntry .pacs008 raw (some .credit)
    .ok { returned with payload := credit.payload }
  | none => .ok { returned with payload := StatementEntry.emptyPayload }

def outline (directory : TenantDirectory) (stage : BookingStage) (r : ConversionCreditRequest) :
    Except Error Outline := do
  let c := r.context
  let tenant ← directory.resolve c.tenant
  let id ← c.requiredCorrelationId
  let entry ← if stage = .conversionReturn then r.returnEntry else r.creditEntry
  let party := entry.party.withIbanIfNone r.creditorIban
  .ok {
    stage
    tenant
    scheme := c.scheme
    date := r.date
    statement := { entry.statement id c.groupId with party }
    legs := [⟨r.conversionAccount, .conversion, .deposit, .amount, r.amount, c.purpose⟩]
    resolved := .empty }

end ConversionCreditRequest

namespace ConversionDebitRequest

def outline (directory : TenantDirectory) (r : ConversionDebitRequest) : Except Error Outline := do
  let c := r.context
  let tenant ← directory.resolve c.tenant
  let id ← c.requiredCorrelationId
  let entry ← readEntry .pain001 r.pain001 none
  .ok {
    stage := .conversionDebit
    tenant
    scheme := c.scheme
    date := r.date
    statement := entry.statement id c.groupId
    legs := Leg.withFee r.conversionAccount .conversion .withdrawal r.amount c.purpose
      r.fee.chargeable r.feePurpose
    resolved := .empty }

end ConversionDebitRequest

/-- The date that is given, or else today's, which is then reported back. -/
def dateOrToday (settings : LedgerSettings) (clock : Clock) (date : Option String) :
    Except Error (String × Variables) :=
  match date with
  | some date => .ok (date, .empty)
  | none => do
    let today ← settings.today clock
    .ok (today, .ofList [("transactionDate", .text today)])

namespace RevertRequest

/-- The date of a revert, which has to be given if the fee has a purpose of its own. -/
def bookingDate (settings : LedgerSettings) (clock : Clock) (stage : BookingStage)
    (r : RevertRequest) : Except Error (String × Variables) :=
  if stage = .revertWithoutFee then dateOrToday settings clock r.date
  else (presentVariable "transactionDate" r.date).map fun date => (date, .empty)

def outline (settings : LedgerSettings) (directory : TenantDirectory) (clock : Clock)
    (stage : BookingStage) (r : RevertRequest) : Except Error Outline := do
  let c := r.context
  let tenant ← directory.resolve c.tenant
  let id ← c.requiredCorrelationId
  let (date, resolved) ← r.bookingDate settings clock stage
  let entry ← readEntry .pain001 r.pain001 none
  let party := entry.party.overrideIban r.debtorIban
  .ok {
    stage
    tenant
    scheme := c.scheme
    date
    statement := { entry.statement id c.groupId with party }
    legs := Leg.undone r.conversionAccount r.disposalAccount r.amount c.purpose r.fee.chargeable
      (if stage = .revertWithoutFee then c.purpose else r.feePurpose)
    resolved }

end RevertRequest

namespace DisposalDepositRequest

/-- The correlation id that is given, or else that of the cancelled payment, which is then
reported back. -/
def correlationId (r : DisposalDepositRequest) : Except Error (String × Variables) :=
  match r.context.correlationId with
  | some id => .ok (id, .empty)
  | none => do
    let reference ← (CancellationReference.ofMessage r.camt056).mapError .undecodable
    let id := reference.correlationId
    .ok (id, .ofList [("internalCorrelationId", .text id)])

/-- The amount goes back to the disposal account, without a fee. A deposit without a group makes
a group of its own. -/
def outline (settings : LedgerSettings) (directory : TenantDirectory) (clock : Clock)
    (r : DisposalDepositRequest) : Except Error Outline := do
  let c := r.context
  let tenant ← directory.resolve c.tenant
  let (id, resolvedId) ← r.correlationId
  let (date, resolvedDate) ← dateOrToday settings clock r.date
  let entry ← readEntry .camt056 r.camt056 none
  let party := entry.party.overrideIban r.debtorIban
  .ok {
    stage := .disposalDeposit
    tenant
    scheme := c.scheme
    date
    statement := { entry.statement id (some (c.groupId.getD id)) with party }
    legs := Leg.undone r.conversionAccount r.disposalAccount r.amount c.purpose none none
    resolved := resolvedId.insertMany resolvedDate.toList }

end DisposalDepositRequest

end PaymentBooking
