/-! # Customer accounts

A customer is known by an IBAN, behind which are ledger accounts to which money can be sent or not.

An IBAN names its country by two capital letters, then has two check digits and a body of digits
and capital letters. Moved to the end, the first four characters make the whole a number that
leaves the remainder 1 modulo 97, letters being read as the numbers from 10 to 35.
-/

namespace PaymentBooking

/-- Why a text is no IBAN. -/
inductive IbanFault where
  | wrongLength
  | missingCountryCode
  | missingCheckDigits
  | unexpectedCharacter
  | checksumMismatch
deriving DecidableEq

def IbanFault.message : IbanFault → String
  | .wrongLength => "wrong length"
  | .missingCountryCode => "missing country code"
  | .missingCheckDigits => "missing check digits"
  | .unexpectedCharacter => "unexpected character"
  | .checksumMismatch => "checksum mismatch"

/-- A checked IBAN, as it was given. -/
structure Iban where
  text : String
deriving DecidableEq

namespace Iban

/-- The remainder modulo 97 after one more character: a letter appends two digits. -/
def appendRemainder (remainder : Nat) (c : Char) : Nat :=
  if c.isDigit then (remainder * 10 + (c.toNat - '0'.toNat)) % 97
  else (remainder * 100 + (c.toNat - 'A'.toNat + 10)) % 97

def remainder (cs : List Char) : Nat := cs.foldl appendRemainder 0

/-- The characters with the first four moved to the end. -/
def rearranged (cs : List Char) : List Char := cs.drop 4 ++ cs.take 4

/-- Checks the length in bytes, the country code, the check digits, the body and the checksum, in
this order. -/
def parse (s : String) : Except IbanFault Iban :=
  let cs := s.toList
  if s.utf8ByteSize < 15 ∨ 34 < s.utf8ByteSize then .error .wrongLength
  else if !(cs.take 2).all Char.isUpper then .error .missingCountryCode
  else if !((cs.drop 2).take 2).all Char.isDigit then .error .missingCheckDigits
  else if !(cs.drop 4).all (fun c => c.isDigit || c.isUpper) then .error .unexpectedCharacter
  else if remainder (rearranged cs) ≠ 1 then .error .checksumMismatch
  else .ok ⟨s⟩

end Iban

/-! ## Accounts behind an IBAN -/

/-- The two accounts of a customer, and the flags set on them, such as a blocking order. -/
structure AccountRecord where
  conversionAccount : Int64
  disposalAccount : Int64
  flags : List String
deriving DecidableEq

/-- Whether a customer can be credited. -/
inductive Readiness where
  | ready
  | notReady
deriving DecidableEq

/-- A customer can be credited if there is a record without flags. -/
def Readiness.of : Option AccountRecord → Readiness
  | some record => if record.flags.isEmpty then .ready else .notReady
  | none => .notReady

def Readiness.text : Readiness → String
  | .ready => "READY_TO_RECEIVE_MONEY"
  | .notReady => "NOT_READY_TO_RECEIVE_MONEY"

end PaymentBooking
