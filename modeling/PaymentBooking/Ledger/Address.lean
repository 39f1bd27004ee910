import PaymentBooking.Batch
import PaymentBooking.Error
import PaymentBooking.Operation
import PaymentBooking.Text.Numeral

/-! # Addresses of the ledger

A transaction is addressed by a path that ends in the account's number and `transactions`, with
the command as its query; a detail by a table and the number of a resource below `datatables`.
Empty segments of a path count for nothing.
-/

namespace PaymentBooking

/-- What an address asks the ledger for. -/
inductive Address where
  /-- A command to an account. -/
  | transaction (account : Int64) (action : LedgerAction)
  /-- A row of a table about a resource. -/
  | detail (table : String) (resource : Int64)
deriving DecidableEq

namespace Address

def ofTransaction (base : String) (account : Int64) (action : LedgerAction) : String :=
  base ++ toString account ++ "/transactions?command=" ++ action.command

/-- The address of a row about the resource of the request before. -/
def ofDetail (table : String) : String := "datatables/" ++ table ++ "/" ++ resourcePlaceholder

def splitQuery (cs : List Char) : List Char × List Char :=
  (cs.takeWhile (· ≠ '?'), (cs.dropWhile (· ≠ '?')).drop 1)

def segments (path : List Char) : List String :=
  ((path.splitOn '/').filter fun segment => !segment.isEmpty).map String.ofList

def readCommand (query : String) : Except AddressFault LedgerAction :=
  if query = "command=withdrawal" then .ok .withdrawal
  else if query = "command=deposit" then .ok .deposit
  else .error (.unsupportedCommand query)

def readDetail (address table resource : String) : Except AddressFault Address :=
  match Text.readInt64? resource with
  | some id => .ok (.detail table id)
  | none => .error (.invalidResource address)

def readTransaction (address account query : String) : Except AddressFault Address :=
  match Text.readInt64? account with
  | some id => (readCommand query).map (.transaction id)
  | none => .error (.invalidAccount address)

/-- Reads an address. Exactly three segments from `datatables` on are a row, whatever they are. -/
def read (address : String) : Except AddressFault Address :=
  let (path, query) := splitQuery address.toList
  match segments path with
  | ["datatables", table, resource] => readDetail address table resource
  | names =>
    match names.reverse with
    | "transactions" :: account :: _ => readTransaction address account (String.ofList query)
    | _ => .error (.unsupportedOperation address)

end Address

end PaymentBooking
