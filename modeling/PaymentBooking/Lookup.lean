import PaymentBooking.Booking.Plan

/-! # Account lookups

A lookup reports the ledger accounts behind a customer's IBAN and whether the customer can be
credited. An IBAN that nobody registered is no error: the customer is not ready.
-/

namespace PaymentBooking.AccountLookup

def accountVariables (record : AccountRecord) : List (String × Json) :=
  [("conversionAccountAmsId", .ofInt64 record.conversionAccount),
   ("disposalAccountAmsId", .ofInt64 record.disposalAccount),
   ("accountAmsFlags", .array (record.flags.map .text))]

def report (record : Option AccountRecord) : List (String × Json) :=
  ("accountAmsStatus", .text (Readiness.of record).text) ::
    (record.map accountVariables).getD []

/-- The tenant and the IBAN that the variables of a job ask about. -/
def subject (directory : TenantDirectory) (vars : Variables) : Except Error (String × Iban) := do
  let request ← AccountLookupRequest.read vars
  let tenant ← directory.resolve request.tenant
  let iban ← (Iban.parse request.iban).mapError fun fault => .invalid (.iban request.iban fault)
  .ok (tenant.name, iban)

def find (directory : TenantDirectory) (l : Ledger) (vars : Variables) :
    Except Error (Option AccountRecord) := do
  let (tenant, iban) ← subject directory vars
  l.lookup tenant iban

/-- The variables of a job with what its lookup reports. -/
def output (vars : Variables) (record : Option AccountRecord) : Variables :=
  vars.insertMany (report record)

def run (directory : TenantDirectory) (l : Ledger) (vars : Variables) :
    Except Error Variables := (find directory l vars).map (output vars)

end PaymentBooking.AccountLookup
