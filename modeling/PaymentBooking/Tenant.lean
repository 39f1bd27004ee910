import PaymentBooking.Dict
import PaymentBooking.Error
import PaymentBooking.Operation

/-! # Tenants

Each tenant maps the keys of its operations to payment types, and may map them to codes and the
cases of its payment schemes to technical accounts. A directory holds these tables by kind, for
all tenants together; a tenant is known exactly if it has payment types.
-/

namespace PaymentBooking

/-- The tables of one tenant. -/
structure TenantTables where
  paymentTypes : Dict String Int64
  codes : Option (Dict String String)
  technicalAccounts : Option (Dict String Int64)
deriving DecidableEq

/-- A known tenant and its tables. -/
structure Tenant where
  name : String
  tables : TenantTables
deriving DecidableEq

namespace Tenant

/-- The payment type of an operation, which no booking can do without. -/
def paymentType (t : Tenant) (key : OperationKey) : Except Error Int64 :=
  match t.tables.paymentTypes.find? key.text with
  | some id => .ok id
  | none => .error (.operationNotConfigured t.name key.text)

def code? (t : Tenant) (key : OperationKey) : Option String :=
  t.tables.codes.bind fun codes => codes.find? key.text

def technicalKey (scheme case : String) : String := scheme ++ "." ++ case

def technicalAccount (t : Tenant) (scheme case : String) : Except Error Int64 :=
  let key := technicalKey scheme case
  match t.tables.technicalAccounts.bind fun accounts => accounts.find? key with
  | some account => .ok account
  | none => .error (.technicalAccountNotConfigured t.name key)

end Tenant

/-- The tables of all tenants, by kind and then by tenant. -/
structure TenantDirectory where
  paymentTypes : Dict String (Dict String Int64)
  codes : Dict String (Dict String String)
  technicalAccounts : Dict String (Dict String Int64)
deriving DecidableEq

namespace TenantDirectory

def empty : TenantDirectory := ⟨.empty, .empty, .empty⟩

def setIfSome {α : Type} (d : Dict String α) (k : String) : Option α → Dict String α
  | some v => d.insert k v
  | none => d

def register (d : TenantDirectory) (name : String) (tables : TenantTables) : TenantDirectory where
  paymentTypes := d.paymentTypes.insert name tables.paymentTypes
  codes := setIfSome d.codes name tables.codes
  technicalAccounts := setIfSome d.technicalAccounts name tables.technicalAccounts

def ofList (tenants : List (String × TenantTables)) : TenantDirectory :=
  tenants.foldl (fun d t => d.register t.1 t.2) empty

def resolve (d : TenantDirectory) (name : String) : Except Error Tenant :=
  match d.paymentTypes.find? name with
  | some types => .ok ⟨name, types, d.codes.find? name, d.technicalAccounts.find? name⟩
  | none => .error (.tenantNotConfigured name)

def names (d : TenantDirectory) : List String := d.paymentTypes.keys

end TenantDirectory

end PaymentBooking
