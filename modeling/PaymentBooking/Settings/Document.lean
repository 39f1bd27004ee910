import PaymentBooking.Settings.Basic
import PaymentBooking.Toml.Document
import PaymentBooking.Toml.Layout

/-! # Settings as a document

Settings are kept in a TOML document. A part that is missing takes its standard value; only the
payment types of a tenant, the tenant and number of an account, and what an IBAN stands for have
none and must be there. Entries of other names are passed over.
-/

namespace PaymentBooking.SettingsDraft

def record {α : Type} (read : Toml → Option α) (v : Toml) : Option α :=
  if v.isRecord then read v else none

def readLedger : Toml → Option LedgerSettings := record fun v => do
  let standard := LedgerSettings.standard
  let basePath ← v.optional 0 "api_base_path" Toml.asText? standard.basePath
  let detailTable ← v.optional 1 "statement_details_table" Toml.asText? standard.detailTable
  let locale ← v.optional 2 "locale" Toml.asText? standard.locale
  let dateFormat ← v.optional 3 "date_format" Toml.asText? standard.dateFormat
  some { basePath, detailTable, locale, dateFormat }

def readLogging : Toml → Option LoggingSettings := record fun v => do
  let standard := LoggingSettings.standard
  let level ← v.optional 0 "level" Toml.asText? standard.level
  let format ← v.optional 1 "format" Toml.asText? standard.format
  some { level, format }

def readTenant : Toml → Option TenantTables := record fun v => do
  let paymentTypes ← v.required 0 "payment_type_ids" (Toml.asDict? Toml.asInt64?)
  let codes ← v.optional 1 "payment_type_codes"
    (fun codes => (codes.asDict? Toml.asText?).map some) none
  let technicalAccounts ← v.optional 2 "technical_accounts"
    (fun accounts => (accounts.asDict? Toml.asInt64?).map some) none
  some { paymentTypes, codes, technicalAccounts }

def readAccount : Toml → Option AccountSeed := record fun v => do
  let tenant ← v.required 0 "tenant" Toml.asText?
  let account ← v.required 1 "id" Toml.asInt64?
  let balance ← v.optional 2 "balance" Toml.asDecimal? .zero
  some { tenant, account, balance }

def readIban : Toml → Option (IbanSeed String) := record fun v => do
  let tenant ← v.required 0 "tenant" Toml.asText?
  let iban ← v.required 1 "iban" Toml.asText?
  let conversionAccount ← v.required 2 "conversion_account_id" Toml.asInt64?
  let disposalAccount ← v.required 3 "disposal_account_id" Toml.asInt64?
  let flags ← v.optional 4 "flags" (Toml.asList? Toml.asText?) []
  some { tenant, iban, record := { conversionAccount, disposalAccount, flags } }

def read? : Toml → Option SettingsDraft := record fun v => do
  let ledger ← v.optional 0 "ledger" readLedger .standard
  let logging ← v.optional 1 "logging" readLogging .standard
  let tenants ← v.optional 2 "tenants" (Toml.asDict? readTenant) .empty
  let accounts ← v.optional 3 "accounts" (Toml.asList? readAccount) []
  let ibans ← v.optional 4 "iban_accounts" (Toml.asList? readIban) []
  some { ledger, logging, tenants, accounts, ibans }

end PaymentBooking.SettingsDraft

namespace PaymentBooking.Settings

def ofToml (v : Toml) : Except SettingsFault Settings :=
  match SettingsDraft.read? v with
  | some draft => draft.check
  | none => .error .document

/-- The settings that a document with this value holds; a value that fits no document is refused. -/
def ofDocument (v : Toml) : Except SettingsFault Settings :=
  if v.fits then ofToml v else .error .document

def parse (text : String) : Except SettingsFault Settings :=
  match Toml.parse? text with
  | some v => ofToml v
  | none => .error .document

end PaymentBooking.Settings
