import PaymentBooking.Error

/-! # Settings of the ledger

Where the ledger takes requests and how requests write dates.
-/

namespace PaymentBooking

/-- The addressing and the formats of requests to the ledger. -/
structure LedgerSettings where
  /-- The path of the savings accounts. -/
  basePath : String
  /-- The table for the statement details of postings. -/
  detailTable : String
  locale : String
  /-- The pattern of transaction dates. -/
  dateFormat : String
deriving DecidableEq

abbrev Clock := Calendar.Pattern → String

namespace LedgerSettings

/-- The settings that hold unless others are given. -/
def standard : LedgerSettings where
  basePath := "/savingsaccounts/"
  detailTable := "dt_savings_transaction_details"
  locale := "en"
  dateFormat := "yyyyMMdd"

instance : Inhabited LedgerSettings := ⟨standard⟩

def relativeBase (s : LedgerSettings) : String :=
  String.ofList (s.basePath.toList.dropWhile (· = '/'))

def datePattern (s : LedgerSettings) : Except SettingsFault Calendar.Pattern :=
  (Calendar.Pattern.parse s.dateFormat).mapError .datePattern

def today (s : LedgerSettings) (clock : Clock) : Except Error String :=
  (s.datePattern.mapError .settings).map clock

end LedgerSettings

end PaymentBooking
