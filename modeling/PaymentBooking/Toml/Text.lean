import PaymentBooking.Json.Reader
import PaymentBooking.Text.Reader

/-! # TOML texts

A text stands between quotes on one line or between triple quotes on several. Between double
quotes a backslash begins an escape; between single quotes every character stands for itself. A
line end within a text is a line feed, however it is written.
-/

namespace PaymentBooking.Toml

open PaymentBooking.Text (Reader)

/-- Whether a character may stand on a line: the tab and all but control characters. -/
def isLineChar (c : Char) : Bool := c = '\t' || (32 ≤ c.toNat && c.toNat ≠ 127)

def isSpace (c : Char) : Bool := c = ' ' || c = '\t'

def unescape? (c : Char) : Option Char := if c = '/' then none else Json.unescape? c

def scalar? (ds : List Char) : Option Char := do
  let values ← ds.mapM Text.hexValue?
  let n := values.foldl (fun n d => n * 16 + d) 0
  if n.isValidChar then some (Char.ofNat n) else none

/-- What a reader of the rest gives, with one character more in front. -/
def consed (c : Char) : Option (List Char × List Char) → Option (List Char × List Char)
  | some (cs, rest) => some (c :: cs, rest)
  | none => none

def readBasic : Reader (List Char)
  | [] => none
  | '"' :: cs => some ([], cs)
  | '\\' :: 'u' :: a :: b :: c :: d :: cs =>
    (scalar? [a, b, c, d]).bind fun x => consed x (readBasic cs)
  | '\\' :: 'U' :: a :: b :: c :: d :: e :: f :: g :: h :: cs =>
    (scalar? [a, b, c, d, e, f, g, h]).bind fun x => consed x (readBasic cs)
  | '\\' :: e :: cs => (unescape? e).bind fun x => consed x (readBasic cs)
  | c :: cs => if isLineChar c then consed c (readBasic cs) else none

def readLiteral : Reader (List Char)
  | [] => none
  | '\'' :: cs => some ([], cs)
  | c :: cs => if isLineChar c then consed c (readLiteral cs) else none

/-- The quotes at the end of a text on several lines: up to two before the closing three belong to
the text. -/
def closing (q : Char) (cs : List Char) : List Char × List Char :=
  let extra := (cs.take 2).takeWhile (· = q)
  (extra, cs.drop extra.length)

def endsLine (cs : List Char) : Bool :=
  match cs.dropWhile isSpace with
  | '\n' :: _ => true
  | '\r' :: '\n' :: _ => true
  | _ => false

/-- Reads a text on several lines behind its double quotes. After a backslash at the end of a line,
blanks and line ends are passed over. -/
def readBasicLines (passing : Bool) : Reader (List Char)
  | [] => none
  | '\r' :: '\n' :: cs =>
    if passing then readBasicLines true cs else consed '\n' (readBasicLines false cs)
  | '\n' :: cs => if passing then readBasicLines true cs else consed '\n' (readBasicLines false cs)
  | '"' :: '"' :: '"' :: cs => some (closing '"' cs)
  | '\\' :: 'u' :: a :: b :: c :: d :: cs =>
    (scalar? [a, b, c, d]).bind fun x => consed x (readBasicLines false cs)
  | '\\' :: 'U' :: a :: b :: c :: d :: e :: f :: g :: h :: cs =>
    (scalar? [a, b, c, d, e, f, g, h]).bind fun x => consed x (readBasicLines false cs)
  | '\\' :: e :: cs =>
    if endsLine (e :: cs) then readBasicLines true (e :: cs)
    else (unescape? e).bind fun x => consed x (readBasicLines false cs)
  | c :: cs =>
    if passing && isSpace c then readBasicLines true cs
    else if isLineChar c then consed c (readBasicLines false cs)
    else none

def readLiteralLines : Reader (List Char)
  | [] => none
  | '\r' :: '\n' :: cs => consed '\n' (readLiteralLines cs)
  | '\n' :: cs => consed '\n' (readLiteralLines cs)
  | '\'' :: '\'' :: '\'' :: cs => some (closing '\'' cs)
  | c :: cs => if isLineChar c then consed c (readLiteralLines cs) else none

def dropLineEnd : List Char → List Char
  | '\n' :: cs => cs
  | '\r' :: '\n' :: cs => cs
  | cs => cs

def readText : Reader (List Char)
  | '"' :: '"' :: '"' :: cs => readBasicLines false (dropLineEnd cs)
  | '\'' :: '\'' :: '\'' :: cs => readLiteralLines (dropLineEnd cs)
  | '"' :: cs => readBasic cs
  | '\'' :: cs => readLiteral cs
  | _ => none

end PaymentBooking.Toml
