import PaymentBooking.Decimal.Text

/-! # Amounts and fees

An amount moves money and is above zero. A fee may be zero, and is charged exactly if it is above
zero.
-/

namespace PaymentBooking

/-- Why a decimal is no amount or no fee. -/
inductive MoneyFault where
  | amountNotPositive (d : Decimal)
  | feeNegative (d : Decimal)
deriving DecidableEq

def MoneyFault.message : MoneyFault → String
  | .amountNotPositive d => "Amount must be positive, got " ++ d.text
  | .feeNegative d => "Fee must not be negative, got " ++ d.text

/-- A decimal above zero. -/
structure Amount where
  value : Decimal
  positive : value.isPositive
deriving DecidableEq

/-- A decimal that is not below zero. -/
structure Fee where
  value : Decimal
  nonnegative : value.isNegative = false
deriving DecidableEq

def Amount.ofDecimal (d : Decimal) : Except MoneyFault Amount :=
  if h : d.isPositive then .ok ⟨d, h⟩ else .error (.amountNotPositive d)

def Fee.ofDecimal (d : Decimal) : Except MoneyFault Fee :=
  if h : d.isNegative = false then .ok ⟨d, h⟩ else .error (.feeNegative d)

/-- The amount to be booked for a fee; a fee of zero is not booked. -/
def Fee.chargeable (f : Fee) : Option Amount :=
  if h : f.value.isPositive then some ⟨f.value, h⟩ else none

end PaymentBooking
