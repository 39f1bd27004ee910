import PaymentBooking.Toml.Value

/-! # Tables in the making

A table of a TOML document may be written in several places: its own header, headers of tables
below it, and dotted keys. How it came about decides what may still be added, so that no table is
written twice and nothing is added to a value.
-/

namespace PaymentBooking.Toml

/-- How a table came about. -/
inductive Origin where
  /-- By a header of its own. -/
  | header
  /-- By a header of a table below it. -/
  | passing
  /-- By a dotted key. -/
  | dotted
deriving DecidableEq

/-- What a key stands for. -/
inductive Node where
  | value (v : Toml)
  | table (origin : Origin) (entries : List (String × Node))
  /-- The tables of an array that is written table by table. -/
  | tables (items : List (List (String × Node)))
deriving Inhabited

abbrev Entries := List (String × Node)

namespace Entries

def set (key : String) (node : Node) : Entries → Entries
  | [] => [(key, node)]
  | e :: es => if e.1 = key then (key, node) :: es else e :: set key node es

def changeLast (change : Entries → Option Entries) : List Entries → Option (List Entries)
  | [] => none
  | [item] => (change item).map fun item => [item]
  | item :: items => (changeLast change items).map (item :: ·)

/-- Enters a value under a dotted key. `direct` says whether the table takes entries here: it does
if its header or its dotted keys are being written. Tables with another header are closed. -/
def enter (direct : Bool) (v : Toml) : (key : List String) → Entries → Option Entries
  | [], _ => none
  | [k], es => if direct && (es.lookup k).isNone then some (es.set k (.value v)) else none
  | k :: key, es =>
    match es.lookup k with
    | none => (enter true v key []).map fun inner => es.set k (.table .dotted inner)
    | some (.table .dotted inner) =>
      (enter true v key inner).map fun inner => es.set k (.table .dotted inner)
    | some (.table .passing inner) =>
      (enter false v key inner).map fun inner => es.set k (.table .passing inner)
    | some (.tables items) =>
      (changeLast (enter false v key) items).map fun items => es.set k (.tables items)
    | some (.table .header _) => none
    | some (.value _) => none

def enterAll (es : Entries) (pairs : List (List String × Toml)) : Option Entries :=
  pairs.foldlM (fun es pair => enter true pair.2 pair.1 es) es

/-- Changes the table that a path of a header leads to. It goes into the last table of an array. -/
def within (change : Entries → Option Entries) :
    (path : List String) → Entries → Option Entries
  | [], es => change es
  | k :: path, es =>
    match es.lookup k with
    | none => (within change path []).map fun inner => es.set k (.table .passing inner)
    | some (.table origin inner) =>
      (within change path inner).map fun inner => es.set k (.table origin inner)
    | some (.tables items) =>
      (changeLast (within change path) items).map fun items => es.set k (.tables items)
    | some (.value _) => none

/-- Writes the table of a header. Only a table that was passed through may be there before. -/
def writeTable (k : String) (pairs : List (List String × Toml)) (es : Entries) : Option Entries :=
  match es.lookup k with
  | none => (enterAll [] pairs).map fun inner => es.set k (.table .header inner)
  | some (.table .passing inner) =>
    (enterAll inner pairs).map fun inner => es.set k (.table .header inner)
  | some _ => none

def writeItem (k : String) (pairs : List (List String × Toml)) (es : Entries) : Option Entries :=
  match es.lookup k with
  | none => (enterAll [] pairs).map fun item => es.set k (.tables [item])
  | some (.tables items) =>
    (enterAll [] pairs).map fun item => es.set k (.tables (items ++ [item]))
  | some _ => none

end Entries

mutual

def Node.toToml : Node → Toml
  | .value v => v
  | .table _ entries => .table (Node.entriesToToml entries)
  | .tables items => .array (Node.itemsToToml items)

def Node.entriesToToml : List (String × Node) → List (String × Toml)
  | [] => []
  | (k, node) :: entries => (k, node.toToml) :: Node.entriesToToml entries

def Node.itemsToToml : List (List (String × Node)) → List Toml
  | [] => []
  | item :: items => .table (Node.entriesToToml item) :: Node.itemsToToml items

end

def tableOf? (pairs : List (List String × Toml)) : Option Toml :=
  (Entries.enterAll [] pairs).map fun entries => .table (Node.entriesToToml entries)

end PaymentBooking.Toml
