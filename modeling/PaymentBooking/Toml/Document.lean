import PaymentBooking.Toml.Reader

/-! # TOML documents

The statements of a document are gathered into sections, each a header with its entries, and the
sections are written into one table.
-/

namespace PaymentBooking.Toml

/-- What stands at the head of a section. -/
inductive Header where
  | table (path : List String)
  | item (path : List String)

/-- A header and the entries below it. -/
structure Section where
  header : Header
  pairs : List (List String × Toml)

/-- Puts a statement before the entries that no header has claimed yet and the sections behind
them. -/
def gather (s : Statement) (rest : List (List String × Toml) × List Section) :
    List (List String × Toml) × List Section :=
  match s with
  | .entry key value => ((key, value) :: rest.1, rest.2)
  | .table path => ([], ⟨.table path, rest.1⟩ :: rest.2)
  | .item path => ([], ⟨.item path, rest.1⟩ :: rest.2)

def sectionsOf (statements : List Statement) : List (List String × Toml) × List Section :=
  statements.foldr gather ([], [])

/-- Writes what a header leads to, at the last part of its path. -/
def writeAt (write : String → Entries → Option Entries) (path : List String) (es : Entries) :
    Option Entries :=
  match path.getLast? with
  | some k => Entries.within (write k) path.dropLast es
  | none => none

def writeSection (es : Entries) (s : Section) : Option Entries :=
  match s.header with
  | .table path => writeAt (Entries.writeTable · s.pairs) path es
  | .item path => writeAt (Entries.writeItem · s.pairs) path es

def assemble (statements : List Statement) : Option Toml := do
  let (pairs, sections) := sectionsOf statements
  let top ← Entries.enterAll [] pairs
  let entries ← sections.foldlM writeSection top
  some (.table (Node.entriesToToml entries))

def dropMark : List Char → List Char
  | '\uFEFF' :: cs => cs
  | cs => cs

def parse? (s : String) : Option Toml :=
  let cs := dropMark s.toList
  (readStatements (cs.length + 1) cs).bind assemble

end PaymentBooking.Toml
