import PaymentBooking.Ledger.Basic
import PaymentBooking.LedgerSettings
import PaymentBooking.Tenant

/-! # Settings

What a run is configured with: the ledger's addressing, the tenants, and the accounts that the
ledger starts with. Settings are read from a document as a draft; a draft that passes all checks
is settings, and its IBANs are then checked ones.
-/

namespace PaymentBooking

/-- How much is logged, and in which format. -/
structure LoggingSettings where
  level : String
  format : String
deriving DecidableEq

def LoggingSettings.standard : LoggingSettings := ⟨"info", "pretty"⟩

/-- An account and the balance it starts with. -/
structure AccountSeed where
  tenant : String
  account : Int64
  balance : Decimal
deriving DecidableEq

/-- The accounts that are registered for an IBAN at the start. -/
structure IbanSeed (ι : Type) where
  tenant : String
  iban : ι
  record : AccountRecord

/-- Settings whose IBANs are given as `ι`. -/
structure SettingsOf (ι : Type) where
  ledger : LedgerSettings
  logging : LoggingSettings
  tenants : Dict String TenantTables
  accounts : List AccountSeed
  ibans : List (IbanSeed ι)

abbrev SettingsDraft := SettingsOf String

abbrev Settings := SettingsOf Iban

namespace IbanSeed

def check (s : IbanSeed String) : Except SettingsFault (IbanSeed Iban) :=
  match Iban.parse s.iban with
  | .ok iban => .ok ⟨s.tenant, iban, s.record⟩
  | .error fault => .error (.iban s.iban fault)

end IbanSeed

namespace SettingsDraft

/-- Checks a draft: there is a tenant, the base path is not empty, the date pattern and every IBAN
can be read. -/
def check (d : SettingsDraft) : Except SettingsFault Settings :=
  if d.tenants.isEmpty then .error .noTenant
  else if d.ledger.relativeBase.isEmpty then .error .emptyBasePath
  else do
    let _ ← d.ledger.datePattern
    let ibans ← d.ibans.mapM IbanSeed.check
    .ok ⟨d.ledger, d.logging, d.tenants, d.accounts, ibans⟩

end SettingsDraft

namespace Settings

def directory (s : Settings) : TenantDirectory := .ofList s.tenants.toList

/-- The ledger at the start: the accounts with their balances, then the IBANs. -/
def seed (s : Settings) : Ledger :=
  let l := s.accounts.foldl (fun l a => l.openAccount a.tenant a.account a.balance) .empty
  s.ibans.foldl (fun l i => l.registerIban i.tenant i.iban i.record) l

end Settings

end PaymentBooking
