/-! # Dictionaries in key order

A dictionary lists its entries by strictly increasing key, so equal contents are equal
dictionaries and every listing has one order. `find?_insert` says what an insertion does to the
lookups, and `ext_find?` that the lookups are all there is.
-/

namespace PaymentBooking

/-- Entries whose keys increase strictly, so no key occurs twice. -/
structure Dict (κ : Type u) [Ord κ] (α : Type v) where
  entries : List (κ × α)
  sorted : entries.Pairwise fun a b => compare a.1 b.1 = .lt
deriving DecidableEq

namespace Dict

section Entries

variable {κ : Type u} [Ord κ] {α : Type v}

/-- Puts one entry at its place; an entry of the same key is replaced. -/
def insertEntry (k : κ) (v : α) : List (κ × α) → List (κ × α)
  | [] => [(k, v)]
  | e :: rest =>
    match compare k e.1 with
    | .lt => (k, v) :: e :: rest
    | .eq => (k, v) :: rest
    | .gt => e :: insertEntry k v rest

def findIn? (k : κ) : List (κ × α) → Option α
  | [] => none
  | e :: rest => if compare k e.1 = .eq then some e.2 else findIn? k rest

theorem mem_insertEntry {k : κ} {v : α} {es : List (κ × α)} {e : κ × α}
    (h : e ∈ insertEntry k v es) : e = (k, v) ∨ e ∈ es := by
  induction es with
  | nil => simpa [insertEntry] using h
  | cons x rest ih =>
    simp only [insertEntry] at h
    split at h
    · simpa using h
    · rcases List.mem_cons.1 h with h | h <;> simp [h]
    · rcases List.mem_cons.1 h with h | h
      · simp [h]
      · rcases ih h with h | h <;> simp [h]

theorem sorted_insertEntry [Std.TransOrd κ] (k : κ) (v : α) {es : List (κ × α)}
    (h : es.Pairwise fun a b => compare a.1 b.1 = .lt) :
    (insertEntry k v es).Pairwise fun a b => compare a.1 b.1 = .lt := by
  induction es with
  | nil => simp [insertEntry]
  | cons x rest ih =>
    obtain ⟨hx, hrest⟩ := List.pairwise_cons.1 h
    simp only [insertEntry]
    split
    · rename_i hlt
      refine List.pairwise_cons.2 ⟨fun e he => ?_, h⟩
      rcases List.mem_cons.1 he with rfl | he
      · exact hlt
      · exact Std.TransCmp.lt_trans hlt (hx e he)
    · rename_i heq
      refine List.pairwise_cons.2 ⟨fun e he => ?_, hrest⟩
      exact Std.TransCmp.lt_of_eq_of_lt heq (hx e he)
    · rename_i hgt
      refine List.pairwise_cons.2 ⟨fun e he => ?_, ih hrest⟩
      rcases mem_insertEntry he with rfl | he
      · exact Std.OrientedCmp.gt_iff_lt.1 hgt
      · exact hx e he

theorem findIn?_insertEntry [Std.LawfulEqOrd κ] (k k' : κ) (v : α)
    (es : List (κ × α)) :
    findIn? k' (insertEntry k v es) =
      if compare k' k = .eq then some v else findIn? k' es := by
  induction es with
  | nil => simp [insertEntry, findIn?]
  | cons x rest ih =>
    simp only [insertEntry]
    split
    · simp [findIn?]
    · rename_i heq
      obtain rfl := Std.compare_eq_iff_eq.1 heq
      simp only [findIn?]
      split <;> rfl
    · rename_i hgt
      simp only [findIn?, ih]
      by_cases h₁ : compare k' x.1 = .eq
      · by_cases h₂ : compare k' k = .eq
        · obtain rfl := Std.compare_eq_iff_eq.1 h₁
          obtain rfl := Std.compare_eq_iff_eq.1 h₂
          simp [Std.compare_self] at hgt
        · simp [h₁, h₂]
      · simp [h₁]

theorem findIn?_eq_some_iff [Std.LawfulEqOrd κ] {es : List (κ × α)}
    (h : es.Pairwise fun a b => compare a.1 b.1 = .lt) {k : κ} {v : α} :
    findIn? k es = some v ↔ (k, v) ∈ es := by
  induction es with
  | nil => simp [findIn?]
  | cons x rest ih =>
    obtain ⟨hx, hrest⟩ := List.pairwise_cons.1 h
    simp only [findIn?, List.mem_cons]
    split
    · rename_i heq
      obtain rfl := Std.compare_eq_iff_eq.1 heq
      constructor
      · intro hv
        exact .inl (by rw [← Option.some.inj hv])
      · rintro (hv | hv)
        · rw [← hv]
        · have := hx _ hv
          simp [Std.compare_self] at this
    · rename_i hne
      rw [ih hrest]
      constructor
      · exact .inr
      · rintro (hv | hv)
        · exact absurd (by rw [← hv]; exact Std.compare_self) hne
        · exact hv

end Entries

variable {κ : Type u} [Ord κ] {α : Type v}

def empty : Dict κ α := ⟨[], .nil⟩

instance : EmptyCollection (Dict κ α) := ⟨empty⟩
instance : Inhabited (Dict κ α) := ⟨empty⟩

def find? (d : Dict κ α) (k : κ) : Option α := findIn? k d.entries

def contains (d : Dict κ α) (k : κ) : Bool := (d.find? k).isSome

def toList (d : Dict κ α) : List (κ × α) := d.entries

def keys (d : Dict κ α) : List κ := d.entries.map Prod.fst

def isEmpty (d : Dict κ α) : Bool := d.entries.isEmpty

def map {β : Type w} (f : α → β) (d : Dict κ α) : Dict κ β :=
  ⟨d.entries.map fun e => (e.1, f e.2), by
    rw [List.pairwise_map]; exact d.sorted⟩

section Insert

variable [Std.TransOrd κ]

def insert (d : Dict κ α) (k : κ) (v : α) : Dict κ α :=
  ⟨insertEntry k v d.entries, sorted_insertEntry k v d.sorted⟩

/-- Sets the values of a list of entries one after the other, so the last of a key stays. -/
def insertMany (d : Dict κ α) (es : List (κ × α)) : Dict κ α :=
  es.foldl (fun d e => d.insert e.1 e.2) d

/-- The dictionary of a list of entries; of two entries with one key the later counts. -/
def ofList (es : List (κ × α)) : Dict κ α := empty.insertMany es

end Insert

@[simp] theorem find?_empty (k : κ) : (empty : Dict κ α).find? k = none := rfl

variable [Std.LawfulEqOrd κ]

theorem find?_eq_some_iff (d : Dict κ α) {k : κ} {v : α} :
    d.find? k = some v ↔ (k, v) ∈ d.toList :=
  findIn?_eq_some_iff d.sorted

variable [Std.TransOrd κ]

/-- Dictionaries with the same lookups are the same. -/
theorem ext_find? {d d' : Dict κ α} (h : ∀ k, d.find? k = d'.find? k) : d = d' := by
  have hmem : ∀ e, e ∈ d.entries ↔ e ∈ d'.entries := fun e => by
    rw [← findIn?_eq_some_iff d.sorted,
      ← findIn?_eq_some_iff d'.sorted]
    exact ⟨fun hd => (h e.1).symm.trans hd, fun hd => (h e.1).trans hd⟩
  have hnodup : ∀ d : Dict κ α, d.entries.Nodup := fun d =>
    d.sorted.imp fun hlt heq => by
      rw [heq, Std.compare_self] at hlt
      exact absurd hlt (by decide)
  have hperm := (List.perm_ext_iff_of_nodup (hnodup d) (hnodup d')).2 hmem
  have hentries : d.entries = d'.entries := by
    refine hperm.eq_of_pairwise (fun a b _ _ hab hba => ?_) d.sorted d'.sorted
    have := Std.TransCmp.lt_trans hab hba
    simp [Std.compare_self] at this
  cases d
  cases d'
  simpa using hentries

theorem find?_insert (d : Dict κ α) (k k' : κ) (v : α) :
    (d.insert k v).find? k' = if compare k' k = .eq then some v else d.find? k' :=
  findIn?_insertEntry k k' v d.entries

@[simp] theorem find?_insert_self (d : Dict κ α) (k : κ) (v : α) :
    (d.insert k v).find? k = some v := by
  simp [find?_insert, Std.compare_self]

theorem find?_insert_of_ne (d : Dict κ α) {k k' : κ} (h : k' ≠ k) (v : α) :
    (d.insert k v).find? k' = d.find? k' := by
  simp [find?_insert, h]

end Dict

end PaymentBooking
