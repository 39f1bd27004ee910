import PaymentBooking.Iban
import PaymentBooking.Ledger.Entry

/-! # Books

The ledger keeps a book for each tenant: the balances of its accounts, the transactions and the
details that were posted, and the accounts behind IBANs. An entry is posted whole or not at all.
-/

namespace PaymentBooking

structure Transaction where
  resource : Nat
  account : Int64
  action : LedgerAction
  amount : Decimal
  paymentType : Int64
deriving DecidableEq

/-- A posted detail: a row of a table about a transaction. -/
structure Detail where
  resource : Nat
  table : String
  columns : Json

/-- The book of a tenant. -/
structure Book where
  balances : Dict Int64 Decimal
  transactions : List Transaction
  details : List Detail
  ibans : Dict String AccountRecord

/-- Why an entry is not posted. -/
inductive PostingFault where
  | refused (refusal : Refusal)
  /-- The new balance is no decimal. -/
  | overflow (operation : Decimal.Operation)
deriving DecidableEq

namespace Book

def empty : Book := ⟨.empty, [], [], .empty⟩

instance : Inhabited Book := ⟨empty⟩

/-- The balance after a transaction. Nothing is withdrawn beyond the balance. -/
def newBalance (account : Int64) (action : LedgerAction) (balance amount : Decimal) :
    Except PostingFault Decimal :=
  match action with
  | .deposit => (Decimal.add? balance amount).elim (.error (.overflow .addition)) .ok
  | .withdrawal =>
    if balance.isLess amount then .error (.refused (.insufficientFunds account))
    else (Decimal.sub? balance amount).elim (.error (.overflow .subtraction)) .ok

def postTransaction (b : Book) (t : Transaction) : Except PostingFault Book :=
  match b.balances.find? t.account with
  | none => .error (.refused (.unknownAccount t.account))
  | some balance => do
    let balance ← newBalance t.account t.action balance t.amount
    .ok { b with
      balances := b.balances.insert t.account balance
      transactions := b.transactions ++ [t] }

def find? (b : Book) (resource : Int64) : Option Transaction :=
  b.transactions.find? fun t => (t.resource : Int) = resource.toInt

def postDetail (b : Book) (table : String) (resource : Int64) (columns : Json) :
    Except PostingFault (Book × Nat) :=
  match b.find? resource with
  | none => .error (.refused (.unknownResource resource))
  | some t =>
    .ok ({ b with details := b.details ++ [⟨t.resource, table, columns⟩] }, t.resource)

end Book

end PaymentBooking
