/-! # Stages of a payment

A job is for one stage of a payment, which its type names. All stages but one book on the ledger;
the account lookup only reads from it. A job that fails raises the signal of its stage, so that a
person takes it over.
-/

namespace PaymentBooking

/-- A stage that books on the ledger. -/
inductive BookingStage where
  /-- An incoming credit leaves a technical account. -/
  | technicalCredit
  /-- An incoming credit reaches the conversion account. -/
  | conversionCredit
  /-- A recalled payment comes back to the conversion account. -/
  | conversionRecall
  /-- A returned payment comes back to the conversion account. -/
  | conversionReturn
  /-- An outgoing payment leaves the conversion account. -/
  | conversionDebit
  /-- An outgoing payment is undone, and its fee has a purpose of its own. -/
  | revert
  /-- An outgoing payment is undone, and its fee goes by the purpose of the payment. -/
  | revertWithoutFee
  /-- A cancelled payment goes from the conversion to the disposal account. -/
  | disposalDeposit
deriving DecidableEq

/-- A stage of a payment. -/
inductive Stage where
  | booking (stage : BookingStage)
  | accountLookup
deriving DecidableEq

namespace BookingStage

def jobType : BookingStage → String
  | .technicalCredit => "bookCreditedAmountFromTechnicalAccount"
  | .conversionCredit => "bookCreditedAmountToConversionAccount"
  | .conversionRecall => "bookCreditedAmountToConversionAccountInRecall"
  | .conversionReturn => "bookCreditedAmountToConversionAccountInReturn"
  | .conversionDebit => "bookOnConversionAccountInAms"
  | .revert => "revertInAms"
  | .revertWithoutFee => "revertWithoutFeeInAms"
  | .disposalDeposit => "depositTheAmountOnDisposalInAms"

/-- The stage whose operations are configured for a stage: all that move money from the
conversion to the disposal account share those of the revert. -/
def configured : BookingStage → BookingStage
  | .revertWithoutFee => .revert
  | .disposalDeposit => .revert
  | stage => stage

def failureSignal : BookingStage → String
  | .technicalCredit => "Error_BookFromTechnicalAccountToBeHandledManually"
  | .conversionCredit => "Error_BookToConversionToBeHandledManually"
  | .conversionRecall => "Error_BookToConversionToBeHandledManually"
  | .conversionReturn => "Error_BookToConversionToBeHandledManually"
  | .conversionDebit => "Error_BookOnConversionToBeHandledManually"
  | .revert => "Error_RevertToBeHandledManually"
  | .revertWithoutFee => "Error_RevertToBeHandledManually"
  | .disposalDeposit => "Error_DepositOnDisposalToBeHandledManually"

end BookingStage

namespace Stage

def jobType : Stage → String
  | .booking stage => stage.jobType
  | .accountLookup => "getAccountDetailsFromAms"

def failureSignal : Stage → String
  | .booking stage => stage.failureSignal
  | .accountLookup => "Error_AccountLookupToBeHandledManually"

def all : List Stage :=
  [.booking .technicalCredit, .booking .conversionCredit, .booking .conversionRecall,
   .booking .conversionReturn, .booking .conversionDebit, .booking .revert,
   .booking .revertWithoutFee, .booking .disposalDeposit, .accountLookup]

def ofJobType? (jobType : String) : Option Stage := all.find? fun stage => stage.jobType = jobType

end Stage

end PaymentBooking
