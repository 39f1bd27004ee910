import PaymentBooking.Json.Basic

/-! # JSON as text

Values are written without blanks. In a text the quote, the backslash and the characters below
U+0020 are escaped, five of them by a letter, and everything else stands for itself.
-/

namespace PaymentBooking.Json

def hexDigit (n : Nat) : Char := Nat.digitChar n

def escapeChar (c : Char) : List Char :=
  if c = '"' then ['\\', '"']
  else if c = '\\' then ['\\', '\\']
  else if c = '\x08' then ['\\', 'b']
  else if c = '\t' then ['\\', 't']
  else if c = '\n' then ['\\', 'n']
  else if c = '\x0c' then ['\\', 'f']
  else if c = '\r' then ['\\', 'r']
  else if c.toNat < 32 then
    ['\\', 'u', '0', '0', hexDigit (c.toNat / 16), hexDigit (c.toNat % 16)]
  else [c]

def writeText (s : String) : List Char := '"' :: s.toList.flatMap escapeChar ++ ['"']

def separated : List (List Char) → List Char
  | [] => []
  | [item] => item
  | item :: items => item ++ ',' :: separated items

def writeMember (name : String) (value : List Char) : List Char := writeText name ++ ':' :: value

mutual

def write : Json → List Char
  | .null => ['n', 'u', 'l', 'l']
  | .bool true => ['t', 'r', 'u', 'e']
  | .bool false => ['f', 'a', 'l', 's', 'e']
  | .number n => n.text
  | .text s => writeText s
  | .array items => '[' :: separated (writeItems items) ++ [']']
  | .object members => '\x7b' :: separated (writeMembers members) ++ ['\x7d']

def writeItems : List Json → List (List Char)
  | [] => []
  | item :: items => write item :: writeItems items

def writeMembers : List (String × Json) → List (List Char)
  | [] => []
  | (name, value) :: members => writeMember name (write value) :: writeMembers members

end

def print (value : Json) : String := String.ofList value.write

theorem writeMembers_eq_map (members : List (String × Json)) :
    writeMembers members = members.map fun m => writeMember m.1 m.2.write := by
  induction members with
  | nil => rfl
  | cons m members ih => simp [writeMembers, ih]

end PaymentBooking.Json
