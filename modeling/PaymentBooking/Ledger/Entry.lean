import PaymentBooking.Json.Reader
import PaymentBooking.Ledger.Address
import PaymentBooking.Text.Replace

/-! # Entries

What a request asks the ledger to enter, read out of its address and its body without a look at
the books.
-/

namespace PaymentBooking

/-- An entry to be made. -/
inductive Entry where
  | transaction (account : Int64) (action : LedgerAction) (amount : Amount) (paymentType : Int64)
  | detail (table : String) (resource : Int64) (columns : Json)

namespace Entry

def readAmount (body : Json) : Except Refusal Amount :=
  match (body.member? "transactionAmount").bind Reading.decimal? with
  | none => .error .missingAmount
  | some d => (Amount.ofDecimal d).mapError fun _ => .amountNotPositive d

def readPaymentType (body : Json) : Except Refusal Int64 :=
  match body.member? "paymentTypeId" with
  | some (.number n) => n.toInt64?.elim (.error .missingPaymentType) .ok
  | _ => .error .missingPaymentType

def ofAddress (body : Json) : Address → Except Refusal Entry
  | .transaction account action => do
    let amount ← readAmount body
    let paymentType ← readPaymentType body
    .ok (.transaction account action amount paymentType)
  | .detail table resource => .ok (.detail table resource body)

def ofItem (i : BatchItem) : Except Refusal Entry :=
  match Json.parse? i.body with
  | none => .error .malformedBody
  | some body => do
    let address ← (Address.read i.address).mapError .address
    ofAddress body address

end Entry

namespace BatchItem

def substitute (i : BatchItem) (resource : Nat) : BatchItem :=
  { i with
    address := Text.replaceAll resourcePlaceholder (toString resource) i.address
    body := Text.replaceAll resourcePlaceholder (toString resource) i.body }

/-- The item with its reference to the resource before it resolved. -/
def resolve (i : BatchItem) (previous : Option Nat) : Except Refusal BatchItem :=
  if i.dependent then
    match previous with
    | some resource => .ok (i.substitute resource)
    | none => .error .noPrecedingResource
  else .ok i

end BatchItem

end PaymentBooking
