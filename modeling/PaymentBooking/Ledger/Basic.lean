import PaymentBooking.Ledger.Book

/-! # The ledger

The ledger holds the books of all tenants and numbers transactions in one sequence. A batch is
worked off item by item on a copy of the tenant's book. After the last item the copy is put in the
book's place; an item that is refused ends the work before that, and the ledger stays as it is by
then.
-/

namespace PaymentBooking

/-- What keeps a batch or a job from taking effect. -/
inductive Failure where
  | error (e : Error)
  /-- A balance would leave the range of decimals. -/
  | overflow (operation : Decimal.Operation)
deriving DecidableEq

/-- The books of all tenants, and the number of the next transaction. -/
structure Ledger where
  books : Dict String Book
  next : Nat

/-- The copy of a book that a batch is worked off on: the book as it is by now, the number of the
next transaction, and the resources of the items so far. -/
structure Progress where
  book : Book
  next : Nat
  receipt : List Nat

namespace Progress

/-- Enters an entry in the book, a transaction as the next resource. Gives the resource that the
entry is about. -/
def enter (p : Progress) : Entry → Except PostingFault (Book × Nat)
  | .transaction account action amount paymentType => do
    let book ← p.book.postTransaction ⟨p.next, account, action, amount.value, paymentType⟩
    .ok (book, p.next)
  | .detail table resource columns => p.book.postDetail table resource columns

/-- Posts an entry. The numbers go on when the entry is about the next resource. -/
def post (p : Progress) (e : Entry) : Except PostingFault Progress := do
  let (book, resource) ← p.enter e
  .ok ⟨book, if resource = p.next then p.next + 1 else p.next, p.receipt ++ [resource]⟩

def entryOf (p : Progress) (i : BatchItem) : Except Refusal Entry := do
  Entry.ofItem (← i.resolve p.receipt.getLast?)

def step (p : Progress) (i : BatchItem) : Except PostingFault Progress := do
  p.post (← (p.entryOf i).mapError .refused)

def failure (index : Nat) : PostingFault → Failure
  | .refused refusal => .error (.refused index refusal)
  | .overflow operation => .overflow operation

end Progress

namespace Ledger

def empty : Ledger := ⟨.empty, 1⟩

instance : Inhabited Ledger := ⟨empty⟩

/-- The book of a tenant, empty if there is none. -/
def bookOf (l : Ledger) (tenant : String) : Book := (l.books.find? tenant).getD .empty

/-- The ledger with another book for a tenant. -/
def setBook (l : Ledger) (tenant : String) (b : Book) : Ledger :=
  { l with books := l.books.insert tenant b }

/-- Opens an account with a balance, or sets the balance of an open one. -/
def openAccount (l : Ledger) (tenant : String) (account : Int64) (balance : Decimal) : Ledger :=
  let b := l.bookOf tenant
  l.setBook tenant { b with balances := b.balances.insert account balance }

def registerIban (l : Ledger) (tenant : String) (iban : Iban) (record : AccountRecord) : Ledger :=
  let b := l.bookOf tenant
  l.setBook tenant { b with ibans := b.ibans.insert iban.text record }

def book (l : Ledger) (tenant : String) : Except Error Book :=
  match l.books.find? tenant with
  | some b => .ok b
  | none => .error (.ledger (.unknownTenant tenant))

def lookup (l : Ledger) (tenant : String) (iban : Iban) : Except Error (Option AccountRecord) :=
  (l.book tenant).map fun b => b.ibans.find? iban.text

end Ledger

/-- A batch at work: the ledger, and the copy that is to take the place of a book in it. -/
structure Submission where
  ledger : Ledger
  copy : Progress

namespace Submission

def begin (l : Ledger) (b : Book) : Submission := ⟨l, b, l.next, []⟩

/-- Works off the item at an index. Gives what keeps it from being posted, if anything does. -/
def item (s : Submission) (index : Nat) (i : BatchItem) : Submission × Option Failure :=
  match s.copy.step i with
  | .ok copy => ({ s with copy }, none)
  | .error fault => (s, some (Progress.failure index fault))

/-- Works off items up to the first that is not posted; `index` is that of the first. -/
def items (s : Submission) (index : Nat) : List BatchItem → Submission × Option Failure
  | [] => (s, none)
  | i :: rest =>
    match s.item index i with
    | (s, none) => s.items (index + 1) rest
    | (s, some failure) => (s, some failure)

/-- The ledger with the copy in the place of the tenant's book. -/
def commit (s : Submission) (tenant : String) : Ledger :=
  ⟨s.ledger.books.insert tenant s.copy.book, s.copy.next⟩

end Submission

/-- Submits the items of a batch for a tenant. Gives the ledger as it is left, and the resource of
each item. -/
def Ledger.submit (l : Ledger) (tenant : String) (items : List BatchItem) :
    Ledger × Except Failure (List Nat) :=
  match l.book tenant with
  | .error e => (l, .error (.error e))
  | .ok b =>
    match (Submission.begin l b).items 0 items with
    | (s, none) => (s.commit tenant, .ok s.copy.receipt)
    | (s, some failure) => (s.ledger, .error failure)

end PaymentBooking
