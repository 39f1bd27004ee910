import PaymentBooking.Toml.Reader

/-! # The layout of a document

A document gives a table a header with the keys that lead to it, and an array of nothing but tables
a header for each of them; any other value stands behind its key, with all that it holds in one
piece. A value fits a document if no header has too many keys and no piece nests too deep.
-/

namespace PaymentBooking.Toml

def isTable : Toml → Bool
  | .table _ => true
  | _ => false

mutual

/-- How deep arrays and tables nest in a value that is written in one piece. -/
def depth : Toml → Nat
  | .array items => depthOfItems items + 1
  | .table entries => depthOfEntries entries + 1
  | _ => 0

def depthOfItems : List Toml → Nat
  | [] => 0
  | v :: vs => max v.depth (depthOfItems vs)

def depthOfEntries : List (String × Toml) → Nat
  | [] => 0
  | (_, v) :: es => max v.depth (depthOfEntries es)

end

mutual

/-- Whether a value that so many keys lead to fits a document. -/
def fitsBelow (keys : Nat) : Toml → Bool
  | .table entries => keys ≤ maxDepth && entriesFitBelow (keys + 1) entries
  | .array items =>
    if !items.isEmpty && items.all isTable then itemsFitBelow keys items
    else depthOfItems items < maxDepth
  | _ => true

def itemsFitBelow (keys : Nat) : List Toml → Bool
  | [] => true
  | v :: vs => fitsBelow keys v && itemsFitBelow keys vs

def entriesFitBelow (keys : Nat) : List (String × Toml) → Bool
  | [] => true
  | (_, v) :: es => fitsBelow keys v && entriesFitBelow keys es

end

def fits (v : Toml) : Bool := fitsBelow 0 v

end PaymentBooking.Toml
