import PaymentBooking.Calendar.Pattern
import PaymentBooking.Iban
import PaymentBooking.Message.Basic

/-! # Errors

Everything that keeps a job from being done, with the text that reports it and the kind of the
failure: something is not configured, something could not be read, or the ledger refused.
-/

namespace PaymentBooking

/-- What sort of failure an error is. -/
inductive FailureKind where
  /-- A tenant, an operation or an account is not configured. -/
  | configuration
  /-- A job or a message could not be read. -/
  | decode
  /-- The ledger refused, or the failure is of no other sort. -/
  | ledger
deriving DecidableEq

def FailureKind.name : FailureKind → String
  | .configuration => "Configuration"
  | .decode => "Decode"
  | .ledger => "Ledger"

/-- Why a value that could be read is not accepted. -/
inductive Invalidity where
  | money (fault : MoneyFault)
  | iban (text : String) (fault : IbanFault)
  /-- A job of this type was to be booked. -/
  | noBooking (jobType : String)
deriving DecidableEq

def Invalidity.message : Invalidity → String
  | .money fault => fault.message
  | .iban text fault => "invalid IBAN " ++ text ++ ": " ++ fault.message
  | .noBooking jobType => jobType ++ " does not book on the ledger"

/-- What an address of the ledger has wrong. -/
inductive AddressFault where
  | invalidResource (address : String)
  | invalidAccount (address : String)
  | unsupportedCommand (query : String)
  | unsupportedOperation (address : String)
deriving DecidableEq

def AddressFault.message : AddressFault → String
  | .invalidResource address => "invalid resource id in " ++ address
  | .invalidAccount address => "invalid account id in " ++ address
  | .unsupportedCommand query => "unsupported command '" ++ query ++ "'"
  | .unsupportedOperation address => "unsupported operation " ++ address

/-- Why the ledger refuses an item. -/
inductive Refusal where
  | noPrecedingResource
  | malformedBody
  | address (fault : AddressFault)
  | missingAmount
  | amountNotPositive (amount : Decimal)
  | missingPaymentType
  | unknownAccount (account : Int64)
  | insufficientFunds (account : Int64)
  | unknownResource (resource : Int64)
deriving DecidableEq

def Refusal.message : Refusal → String
  | .noPrecedingResource => "dependent item has no preceding resource"
  | .malformedBody => "malformed body: " ++ jsonErrorText
  | .address fault => fault.message
  | .missingAmount => "missing transactionAmount"
  | .amountNotPositive amount => "non-positive amount " ++ amount.text
  | .missingPaymentType => "missing paymentTypeId"
  | .unknownAccount account => "unknown account " ++ toString account
  | .insufficientFunds account => "insufficient funds on account " ++ toString account
  | .unknownResource resource => "no resource " ++ toString resource ++ " to attach details to"

/-- Why the ledger cannot be asked. -/
inductive LedgerFault where
  | unknownTenant (tenant : String)
deriving DecidableEq

def LedgerFault.message : LedgerFault → String
  | .unknownTenant tenant => "unknown tenant " ++ tenant

/-- Why settings cannot be used. -/
inductive SettingsFault where
  /-- The document is not well formed or does not hold the settings. -/
  | document
  | noTenant
  | emptyBasePath
  | datePattern (fault : Calendar.PatternFault)
  | iban (text : String) (fault : IbanFault)
deriving DecidableEq

/-- The text of a fault; the causes within a document are not reported. -/
def SettingsFault.message : SettingsFault → String
  | .document => "<toml>"
  | .noTenant => "at least one tenant must be configured"
  | .emptyBasePath => "ledger.api_base_path must not be empty"
  | .datePattern fault => fault.message
  | .iban text fault => "Validation error: " ++ (Invalidity.iban text fault).message

inductive Error where
  | tenantNotConfigured (tenant : String)
  | operationNotConfigured (tenant key : String)
  | technicalAccountNotConfigured (tenant key : String)
  | unknownStage (jobType : String)
  | missingVariable (name : String)
  | invalidVariables (fault : Reading.Fault)
  | invalid (cause : Invalidity)
  | undecodable (fault : MessageFault)
  /-- The ledger refused the item at this index of a batch. -/
  | refused (index : Nat) (refusal : Refusal)
  | ledger (fault : LedgerFault)
  | settings (fault : SettingsFault)
  /-- A text is no JSON, or not the JSON that was wanted. -/
  | json
  | io (text : String)
deriving DecidableEq

namespace Error

def message : Error → String
  | .tenantNotConfigured tenant =>
    "No tenant payment type id configuration found for " ++ tenant
  | .operationNotConfigured tenant key =>
    "Operation " ++ key ++ " is not configured for tenant " ++ tenant
  | .technicalAccountNotConfigured tenant key =>
    "No technical account configured for " ++ key ++ " of tenant " ++ tenant
  | .unknownStage jobType => "Unknown stage: " ++ jobType
  | .missingVariable name => "Missing job variable: " ++ name
  | .invalidVariables fault => "Invalid job variables: " ++ fault.message
  | .invalid cause => "Validation error: " ++ cause.message
  | .undecodable fault => "Decode error: " ++ fault.message
  | .refused index refusal =>
    "Ledger rejected item " ++ toString index ++ ": " ++ refusal.message
  | .ledger fault => "Ledger error: " ++ fault.message
  | .settings fault => "Settings error: " ++ fault.message
  | .json => "JSON error: " ++ jsonErrorText
  | .io text => "IO error: " ++ text

def kind : Error → FailureKind
  | .tenantNotConfigured _ => .configuration
  | .operationNotConfigured _ _ => .configuration
  | .technicalAccountNotConfigured _ _ => .configuration
  | .settings _ => .configuration
  | .unknownStage _ => .decode
  | .missingVariable _ => .decode
  | .invalidVariables _ => .decode
  | .invalid _ => .decode
  | .undecodable _ => .decode
  | .refused _ _ => .ledger
  | .ledger _ => .ledger
  | .json => .ledger
  | .io _ => .ledger

end Error

end PaymentBooking
