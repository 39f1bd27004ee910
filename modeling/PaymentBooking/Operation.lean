/-! # Operations on accounts

What a booking does to an account, and under which key a tenant configures it. A key has four
segments with dots between them: the payment scheme, the stage, the account's role and the action.
-/

namespace PaymentBooking

/-- A command to a savings account. -/
inductive LedgerAction where
  | withdrawal
  | deposit
deriving DecidableEq

namespace LedgerAction

def command : LedgerAction → String
  | .withdrawal => "withdrawal"
  | .deposit => "deposit"

def ofCommand? (s : String) : Option LedgerAction :=
  if s = "withdrawal" then some .withdrawal else if s = "deposit" then some .deposit else none

def verb : LedgerAction → String
  | .withdrawal => "Withdraw"
  | .deposit => "Deposit"

def inverse : LedgerAction → LedgerAction
  | .withdrawal => .deposit
  | .deposit => .withdrawal

@[simp] theorem inverse_inverse (a : LedgerAction) : a.inverse.inverse = a := by cases a <;> rfl

end LedgerAction

/-- The part of a payment that is moved. -/
inductive LegPart where
  | amount
  | fee
deriving DecidableEq

def LegPart.segment : LegPart → String
  | .amount => "TransactionAmount"
  | .fee => "TransactionFee"

def actionSegment (action : LedgerAction) (part : LegPart) : String := action.verb ++ part.segment

/-- The role of the account that is booked on. -/
inductive AccountRole where
  | conversion
  | disposal
  /-- A technical account, by the case it is for. -/
  | technical (case : String)
deriving DecidableEq

def AccountRole.segment : AccountRole → String
  | .conversion => "ConversionAccount"
  | .disposal => "DisposalAccount"
  | .technical case => case

/-- The segments of the key of an operation. -/
structure OperationKey where
  scheme : String
  stage : String
  role : String
  action : String
deriving DecidableEq

def OperationKey.text (k : OperationKey) : String :=
  k.scheme ++ "." ++ k.stage ++ "." ++ k.role ++ "." ++ k.action

end PaymentBooking
