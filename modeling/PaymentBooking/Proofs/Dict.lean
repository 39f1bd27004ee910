import Mathlib.Data.List.Perm.Basic
import PaymentBooking.Dict

/-! # Entries of a dictionary

An insertion puts one entry in the place of the entry of the same key, if there was one, and leaves
all others: `insert_perm` says so for the list of the entries, whatever is computed from it. In a
dictionary made of a list, every entry is found whose key the list has only once.
-/

namespace PaymentBooking.Dict

variable {κ : Type u} [Ord κ] [Std.LawfulEqOrd κ] {α : Type v}

private theorem insertEntry_perm [Std.TransOrd κ] (k : κ) (v : α) {es : List (κ × α)}
    (h : es.Pairwise fun a b => compare a.1 b.1 = .lt) :
    ∃ rest, es.Perm (((findIn? k es).map fun w => (k, w)).toList ++ rest) ∧
      (insertEntry k v es).Perm ((k, v) :: rest) := by
  induction es with
  | nil => exact ⟨[], .nil, .refl _⟩
  | cons e es ih =>
    obtain ⟨he, hes⟩ := List.pairwise_cons.1 h
    cases hc : compare k e.1 with
    | lt =>
      refine ⟨e :: es, ?_, by simp [insertEntry, hc]⟩
      have hnone : findIn? k (e :: es) = none := by
        cases hf : findIn? k (e :: es) with
        | none => rfl
        | some w =>
          -- All keys are above `k`, so `k` is none of them.
          have hmem := (findIn?_eq_some_iff h).1 hf
          rcases List.mem_cons.1 hmem with heq | hmem
          · rw [← heq, Std.compare_self] at hc
            cases hc
          · have := Std.TransCmp.lt_trans hc (he _ hmem)
            rw [Std.compare_self] at this
            cases this
      rw [hnone]
      exact .refl _
    | eq =>
      refine ⟨es, ?_, by simp [insertEntry, hc]⟩
      obtain rfl := Std.compare_eq_iff_eq.1 hc
      simp [findIn?]
    | gt =>
      obtain ⟨rest, hperm, hins⟩ := ih hes
      refine ⟨e :: rest, ?_, ?_⟩
      · simp only [findIn?, hc, reduceCtorEq, if_false]
        exact (hperm.cons e).trans List.perm_middle.symm
      · simp only [insertEntry, hc]
        exact (hins.cons e).trans (.swap _ _ _)

/-- The entries after an insertion: the new one, and all that had another key. -/
theorem insert_perm [Std.TransOrd κ] (d : Dict κ α) (k : κ) (v : α) :
    ∃ rest, d.toList.Perm (((d.find? k).map fun w => (k, w)).toList ++ rest) ∧
      (d.insert k v).toList.Perm ((k, v) :: rest) := insertEntry_perm k v d.sorted

theorem insert_insert [Std.TransOrd κ] (d : Dict κ α) (k : κ) (v w : α) :
    (d.insert k v).insert k w = d.insert k w := by
  apply ext_find?
  intro k'
  rw [find?_insert, find?_insert, find?_insert]
  split <;> rfl

/-! ## Dictionaries of lists -/

theorem find?_ofList_singleton [Std.TransOrd κ] (k k' : κ) (v : α) :
    (ofList [(k, v)]).find? k' = if compare k' k = .eq then some v else none :=
  find?_insert empty k k' v

theorem find?_insertMany_of_not_mem [Std.TransOrd κ] {k : κ} {es : List (κ × α)}
    (h : k ∉ es.map Prod.fst) (d : Dict κ α) : (d.insertMany es).find? k = d.find? k := by
  induction es generalizing d with
  | nil => rfl
  | cons e es ih =>
    rw [List.map_cons, List.mem_cons, not_or] at h
    exact (ih h.2 (d.insert e.1 e.2)).trans (find?_insert_of_ne d h.1 e.2)

theorem find?_insertMany_of_mem [Std.TransOrd κ] {k : κ} {v : α} {es : List (κ × α)}
    (hnodup : (es.map Prod.fst).Nodup) (h : (k, v) ∈ es) (d : Dict κ α) :
    (d.insertMany es).find? k = some v := by
  induction es generalizing d with
  | nil => cases h
  | cons e es ih =>
    rw [List.map_cons, List.nodup_cons] at hnodup
    rcases List.mem_cons.1 h with rfl | h
    · exact (find?_insertMany_of_not_mem hnodup.1 _).trans (find?_insert_self d k v)
    · exact ih hnodup.2 h (d.insert e.1 e.2)

theorem find?_insertMany [Std.TransOrd κ] (d : Dict κ α) (es : List (κ × α)) (k : κ) :
    (d.insertMany es).find? k = ((ofList es).find? k).or (d.find? k) := by
  induction es generalizing d with
  | nil => rfl
  | cons e es ih =>
    have hcons : (ofList (e :: es)).find? k =
        ((ofList es).find? k).or ((empty.insert e.1 e.2).find? k) := ih _
    rw [hcons]
    refine (ih (d.insert e.1 e.2)).trans ?_
    rw [find?_insert, find?_insert]
    cases (ofList es).find? k <;> split <;> rfl

theorem nodup_keys (d : Dict κ α) : (d.toList.map Prod.fst).Nodup := by
  apply List.pairwise_map.2
  exact d.sorted.imp fun hlt heq => by simp [heq, Std.compare_self] at hlt

/-- Before an entry are those of all smaller keys. -/
theorem mem_keys_of_split [Std.TransOrd κ] {d : Dict κ α} {before after : List (κ × α)} {k : κ}
    {v : α} (h : d.toList = before ++ (k, v) :: after) {k' : κ} :
    k' ∈ before.map Prod.fst ↔ compare k' k = .lt ∧ ∃ w, d.find? k' = some w := by
  have hsorted : d.toList.Pairwise fun a b => compare a.1 b.1 = .lt := d.sorted
  rw [h] at hsorted
  obtain ⟨-, hafter, hbefore⟩ := List.pairwise_append.1 hsorted
  constructor
  · intro hmem
    obtain ⟨⟨_, w⟩, hentry, rfl⟩ := List.mem_map.1 hmem
    refine ⟨hbefore _ hentry _ List.mem_cons_self, w, d.find?_eq_some_iff.2 ?_⟩
    rw [h]
    exact List.mem_append_left _ hentry
  · rintro ⟨hlt, w, hw⟩
    have hentry := d.find?_eq_some_iff.1 hw
    rw [h, List.mem_append, List.mem_cons] at hentry
    rcases hentry with hentry | heq | hentry
    · exact List.mem_map.2 ⟨_, hentry, rfl⟩
    · obtain rfl := congrArg Prod.fst heq
      rw [Std.compare_self] at hlt
      cases hlt
    · have hself := Std.TransCmp.lt_trans hlt ((List.pairwise_cons.1 hafter).1 _ hentry)
      rw [Std.compare_self] at hself
      cases hself

theorem ofList_toList [Std.TransOrd κ] (d : Dict κ α) : ofList d.toList = d := by
  apply ext_find?
  intro k
  cases hfind : d.find? k with
  | some v =>
    exact find?_insertMany_of_mem d.nodup_keys (d.find?_eq_some_iff.1 hfind) empty
  | none =>
    apply (find?_insertMany_of_not_mem _ _).trans (find?_empty k)
    intro hmem
    obtain ⟨⟨_, v⟩, hentry, rfl⟩ := List.mem_map.1 hmem
    rw [d.find?_eq_some_iff.2 hentry] at hfind
    cases hfind

theorem find?_insertMany_toList [Std.TransOrd κ] (d e : Dict κ α) (k : κ) :
    (d.insertMany e.toList).find? k = (e.find? k).or (d.find? k) := by
  rw [find?_insertMany, ofList_toList]

/-- Of the entries of a list, those count that its dictionary has. -/
theorem insertMany_toList_ofList [Std.TransOrd κ] (d : Dict κ α) (es : List (κ × α)) :
    d.insertMany (ofList es).toList = d.insertMany es :=
  ext_find? fun k => by rw [find?_insertMany_toList, find?_insertMany]

/-! ## Entries of some keys -/

def AgreeOn (ks : List κ) (d d' : Dict κ α) : Prop := ∀ k ∈ ks, d.find? k = d'.find? k

def restrict [DecidableEq κ] (ks : List κ) (d : Dict κ α) : Dict κ α :=
  ⟨d.entries.filter fun e => e.1 ∈ ks, d.sorted.filter _⟩

theorem find?_restrict [DecidableEq κ] (ks : List κ) (d : Dict κ α) (k : κ) :
    (d.restrict ks).find? k = if k ∈ ks then d.find? k else none := by
  ext v
  rw [find?_eq_some_iff, restrict, toList, List.mem_filter, ← toList, ← find?_eq_some_iff]
  split <;> simp [*]

/-- The entries of these keys are the same, in the same order. -/
theorem AgreeOn.filter_toList [DecidableEq κ] [Std.TransOrd κ] {ks : List κ} {d d' : Dict κ α}
    (h : AgreeOn ks d d') :
    (d.toList.filter fun e => e.1 ∈ ks) = d'.toList.filter fun e => e.1 ∈ ks := by
  have hrestrict : d.restrict ks = d'.restrict ks := by
    apply ext_find?
    intro k
    rw [find?_restrict, find?_restrict]
    split
    · exact h k ‹_›
    · rfl
  exact congrArg toList hrestrict

end PaymentBooking.Dict
