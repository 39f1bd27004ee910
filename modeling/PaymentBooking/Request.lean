import PaymentBooking.Error
import PaymentBooking.Reading.Record

/-! # Requests

Each stage reads a request of its own out of the variables of a job. Variables that a request does
not know are passed over. All requests that book share a context; the fields of a request itself
are read before those of its context.
-/

namespace PaymentBooking

open Reading

/-- What all bookings have in common. -/
structure BookingContext where
  tenant : String
  scheme : String
  correlationId : Option String
  groupId : Option String
  purpose : Option String
deriving DecidableEq

/-- An incoming credit that leaves a technical account. -/
structure TechnicalCreditRequest where
  context : BookingContext
  date : String
  amount : Amount
  case : String
  pacs008 : String
deriving DecidableEq

/-- An incoming credit, recall or return that reaches the conversion account. -/
structure ConversionCreditRequest where
  context : BookingContext
  date : String
  amount : Amount
  conversionAccount : Int64
  pacs008 : Option String
  pacs004 : Option String
  creditorIban : Option String
deriving DecidableEq

/-- An outgoing payment that leaves the conversion account. -/
structure ConversionDebitRequest where
  context : BookingContext
  date : String
  amount : Amount
  fee : Fee
  feePurpose : Option String
  conversionAccount : Int64
  pain001 : String
deriving DecidableEq

/-- The undoing of an outgoing payment. -/
structure RevertRequest where
  context : BookingContext
  date : Option String
  amount : Amount
  fee : Fee
  feePurpose : Option String
  conversionAccount : Int64
  disposalAccount : Int64
  pain001 : String
  debtorIban : Option String
deriving DecidableEq

/-- A cancelled payment that goes from the conversion to the disposal account. -/
structure DisposalDepositRequest where
  context : BookingContext
  date : Option String
  amount : Amount
  conversionAccount : Int64
  disposalAccount : Int64
  camt056 : String
  debtorIban : Option String
deriving DecidableEq

/-- The question for the accounts behind an IBAN. -/
structure AccountLookupRequest where
  tenant : String
  iban : String
deriving DecidableEq

def BookingContext.reader : RecordReader BookingContext :=
  BookingContext.mk <$> .required "tenantIdentifier" text <*> .required "paymentScheme" text <*>
    .optional "internalCorrelationId" text <*> .optional "transactionGroupId" text <*>
    .optional "transactionCategoryPurposeCode" text

namespace Request

def reported {α : Type} (result : Except Fault α) : Except Error α :=
  result.mapError .invalidVariables

/-- Reads a request: first its own fields, then its context. -/
def withContext {α : Type} (own : RecordReader (BookingContext → α)) (vars : Variables) :
    Except Error α :=
  reported do
    let request ← own.run vars
    let context ← BookingContext.reader.run vars
    .ok (request context)

end Request

def TechnicalCreditRequest.read : Variables → Except Error TechnicalCreditRequest :=
  Request.withContext <|
    (fun date amount case pacs008 context => ⟨context, date, amount, case, pacs008⟩) <$>
      .required "transactionDate" text <*> .required "amount" Reading.amount <*>
      .required "caseIdentifier" text <*> .required "originalPacs008" text

def ConversionCreditRequest.read : Variables → Except Error ConversionCreditRequest :=
  Request.withContext <|
    (fun date amount conversion pacs008 pacs004 iban context =>
      ⟨context, date, amount, conversion, pacs008, pacs004, iban⟩) <$>
      .required "transactionDate" text <*> .required "amount" Reading.amount <*>
      .required "conversionAccountAmsId" int64 <*> .optional "originalPacs008" text <*>
      .optional "pacs004" text <*> .optional "creditorIban" text

def ConversionDebitRequest.read : Variables → Except Error ConversionDebitRequest :=
  Request.withContext <|
    (fun date amount fee feePurpose conversion pain001 context =>
      ⟨context, date, amount, fee, feePurpose, conversion, pain001⟩) <$>
      .required "transactionDate" text <*> .required "amount" Reading.amount <*>
      .required "transactionFeeAmount" Reading.fee <*>
      .optional "transactionFeeCategoryPurposeCode" text <*>
      .required "conversionAccountAmsId" int64 <*> .required "originalPain001" text

def RevertRequest.read : Variables → Except Error RevertRequest :=
  Request.withContext <|
    (fun date amount fee feePurpose conversion disposal pain001 iban context =>
      ⟨context, date, amount, fee, feePurpose, conversion, disposal, pain001, iban⟩) <$>
      .optional "transactionDate" text <*> .required "amount" Reading.amount <*>
      .required "transactionFeeAmount" Reading.fee <*>
      .optional "transactionFeeCategoryPurposeCode" text <*>
      .required "conversionAccountAmsId" int64 <*> .required "disposalAccountAmsId" int64 <*>
      .required "originalPain001" text <*> .optional "debtorIban" text

def DisposalDepositRequest.read : Variables → Except Error DisposalDepositRequest :=
  Request.withContext <|
    (fun date amount conversion disposal camt056 iban context =>
      ⟨context, date, amount, conversion, disposal, camt056, iban⟩) <$>
      .optional "transactionDate" text <*> .required "amount" Reading.amount <*>
      .required "conversionAccountAmsId" int64 <*> .required "disposalAccountAmsId" int64 <*>
      .required "camt056" text <*> .optional "debtorIban" text

def AccountLookupRequest.read (vars : Variables) : Except Error AccountLookupRequest :=
  Request.reported <| RecordReader.run
    (AccountLookupRequest.mk <$> .required "tenantIdentifier" text <*>
      .requiredAs "iban" ["valueFilter"] text)
    vars

end PaymentBooking
