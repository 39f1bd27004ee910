import PaymentBooking.Toml.Moment
import PaymentBooking.Toml.Number
import PaymentBooking.Toml.Text
import PaymentBooking.Toml.Tree

/-! # Reading TOML

A document is a list of statements, each on lines of its own: a header, which says where the
following entries belong, or an entry. Statements are read first and put together afterwards. Keys
have fewer than eighty parts, and arrays and inline tables nest less than eighty deep.
-/

namespace PaymentBooking.Toml

open PaymentBooking.Text (Reader exactly word)

/-- The greatest number of parts of a key, and of arrays and inline tables within each other. -/
def maxDepth : Nat := 79

/-- Passes over blanks, line ends and comments; `comment` says whether a comment has begun. A
comment may not hold control characters. -/
def skipTrivia (comment : Bool) : List Char → Option (List Char)
  | [] => some []
  | '\n' :: cs => skipTrivia false cs
  | '\r' :: '\n' :: cs => skipTrivia false cs
  | c :: cs =>
    if comment then if isLineChar c then skipTrivia true cs else none
    else if isSpace c then skipTrivia false cs
    else if c = '#' then skipTrivia true cs
    else some (c :: cs)

def skipComment : List Char → Option (List Char)
  | [] => some []
  | '\n' :: cs => some cs
  | '\r' :: '\n' :: cs => some cs
  | c :: cs => if isLineChar c then skipComment cs else none

def skipLineEnd (cs : List Char) : Option (List Char) :=
  match cs.dropWhile isSpace with
  | '#' :: cs => skipComment cs
  | [] => some []
  | '\n' :: cs => some cs
  | '\r' :: '\n' :: cs => some cs
  | _ => none

def isKeyChar (c : Char) : Bool := c.isAlphanum || c = '_' || c = '-'

def readKeyPart : Reader String
  | '"' :: cs => (readBasic cs).map fun (part, cs) => (String.ofList part, cs)
  | '\'' :: cs => (readLiteral cs).map fun (part, cs) => (String.ofList part, cs)
  | cs =>
    let part := cs.takeWhile isKeyChar
    if part.isEmpty then none else some (String.ofList part, cs.drop part.length)

/-- Reads a key of at most `room` parts, with the blanks around it. -/
def readKey : (room : Nat) → Reader (List String)
  | 0, _ => none
  | room + 1, cs => do
    let (part, cs) ← readKeyPart (cs.dropWhile isSpace)
    match cs.dropWhile isSpace with
    | '.' :: cs => (readKey room cs).map fun (parts, cs) => (part :: parts, cs)
    | cs => some ([part], cs)

def readScalar (cs : List Char) : Option (Toml × List Char) :=
  ((readText cs).map fun (s, cs) => (.text (String.ofList s), cs)) <|>
    ((word ['t', 'r', 'u', 'e'] cs).map fun (_, cs) => (.bool true, cs)) <|>
    ((word ['f', 'a', 'l', 's', 'e'] cs).map fun (_, cs) => (.bool false, cs)) <|>
    ((readMoment cs).map fun (m, cs) => (.moment m, cs)) <|>
    readNumber cs

mutual

/-- Reads a value; `room` is how deep it may nest. -/
def readValue : (fuel room : Nat) → Reader Toml
  | 0, _, _ => none
  | fuel + 1, room + 1, '[' :: cs => do
    let cs ← skipTrivia false cs
    let (items, cs) ← readItems fuel room cs
    some (.array items, cs)
  | fuel + 1, room + 1, '\x7b' :: cs => do
    let (pairs, cs) ← readPairs fuel room (cs.dropWhile isSpace)
    some (← tableOf? pairs, cs)
  | _ + 1, _, cs => readScalar cs

def readItems : (fuel room : Nat) → Reader (List Toml)
  | 0, _, _ => none
  | _ + 1, _, ']' :: cs => some ([], cs)
  | fuel + 1, room, cs => do
    let (item, cs) ← readValue fuel room cs
    match ← skipTrivia false cs with
    | ',' :: cs =>
      let (items, cs) ← readItems fuel room (← skipTrivia false cs)
      some (item :: items, cs)
    | ']' :: cs => some ([item], cs)
    | _ => none

def readPairs : (fuel room : Nat) → Reader (List (List String × Toml))
  | 0, _, _ => none
  | _ + 1, _, '\x7d' :: cs => some ([], cs)
  | fuel + 1, room, cs => readMorePairs fuel room cs

def readMorePairs : (fuel room : Nat) → Reader (List (List String × Toml))
  | 0, _, _ => none
  | fuel + 1, room, cs => do
    let (key, cs) ← readKey maxDepth cs
    let (_, cs) ← exactly '=' cs
    let (value, cs) ← readValue fuel room (cs.dropWhile isSpace)
    match cs.dropWhile isSpace with
    | ',' :: cs =>
      let (pairs, cs) ← readMorePairs fuel room cs
      some ((key, value) :: pairs, cs)
    | '\x7d' :: cs => some ([(key, value)], cs)
    | _ => none

end

/-- A statement of a document. -/
inductive Statement where
  /-- The header of a table. -/
  | table (path : List String)
  /-- The header of one more table of an array. -/
  | item (path : List String)
  /-- A value under a key. -/
  | entry (key : List String) (value : Toml)

def readStatement (fuel : Nat) : Reader Statement
  | '[' :: '[' :: cs => do
    let (path, cs) ← readKey maxDepth cs
    let (_, cs) ← word [']', ']'] cs
    some (.item path, cs)
  | '[' :: cs => do
    let (path, cs) ← readKey maxDepth cs
    let (_, cs) ← exactly ']' cs
    some (.table path, cs)
  | cs => do
    let (key, cs) ← readKey maxDepth cs
    let (_, cs) ← exactly '=' cs
    let (value, cs) ← readValue fuel maxDepth (cs.dropWhile isSpace)
    some (.entry key value, cs)

def readStatements : (fuel : Nat) → List Char → Option (List Statement)
  | 0, _ => none
  | fuel + 1, cs => do
    match ← skipTrivia false cs with
    | [] => some []
    | cs =>
      let (statement, cs) ← readStatement (2 * cs.length + 2) cs
      let statements ← readStatements fuel (← skipLineEnd cs)
      some (statement :: statements)

end PaymentBooking.Toml
