import PaymentBooking.Proofs.Dict
import PaymentBooking.Proofs.Outcome
import PaymentBooking.Reading.Record

/-! # When a record can be read

A record of fields with one name each is read exactly if every field can be read from the member of
its name; all other members do not count, wherever they stand.
-/

namespace PaymentBooking

def Variables.text? (vars : Variables) (name : String) : Option String :=
  (vars.find? name).bind Json.asText?

theorem Variables.text?_eq_some_iff {vars : Variables} {name s : String} :
    vars.text? name = some s ↔ vars.find? name = some (.text s) := by
  cases hfind : vars.find? name with
  | none => simp [text?, hfind]
  | some value => cases value <;> simp [text?, hfind, Json.asText?]

namespace Reading.RecordReader

variable {α β : Type} {values : Variables}

@[simp] theorem fields_map (g : α → β) (x : RecordReader α) : (g <$> x).fields = x.fields := rfl

@[simp] theorem fields_seq (f : RecordReader (α → β)) (x : RecordReader α) :
    (f <*> x).fields = f.fields ++ x.fields := rfl

/-! ## Building -/

theorem exists_build_map_iff {g : α → β} {x : RecordReader α} {P : β → Prop} :
    (∃ b, (g <$> x).build values = .ok b ∧ P b) ↔ ∃ a, x.build values = .ok a ∧ P (g a) := by
  constructor
  · rintro ⟨b, h, hb⟩
    obtain ⟨f, hf, h⟩ := bind_eq_ok_iff.1 h
    obtain ⟨a, ha, h⟩ := bind_eq_ok_iff.1 h
    cases hf
    cases h
    exact ⟨a, ha, hb⟩
  · rintro ⟨a, ha, hb⟩
    exact ⟨g a, bind_eq_ok_iff.2 ⟨g, rfl, bind_eq_ok_iff.2 ⟨a, ha, rfl⟩⟩, hb⟩

/-- A record is built if its earlier fields are and the last one is. -/
theorem exists_build_seq_iff {f : RecordReader (α → β)} {x : RecordReader α} {P : β → Prop} :
    (∃ b, (f <*> x).build values = .ok b ∧ P b) ↔
      ∃ g, f.build values = .ok g ∧ ∃ a, x.build values = .ok a ∧ P (g a) := by
  constructor
  · rintro ⟨b, h, hb⟩
    obtain ⟨g, hg, h⟩ := bind_eq_ok_iff.1 h
    obtain ⟨a, ha, h⟩ := bind_eq_ok_iff.1 h
    cases h
    exact ⟨g, hg, a, ha, hb⟩
  · rintro ⟨g, hg, a, ha, hb⟩
    exact ⟨g a, bind_eq_ok_iff.2 ⟨g, hg, bind_eq_ok_iff.2 ⟨a, ha, rfl⟩⟩, hb⟩

theorem build_required_text_eq_ok_iff {name s : String} :
    (required name text).build values = .ok s ↔ values.text? name = some s := by
  rw [Variables.text?_eq_some_iff]
  cases hfind : values.find? name with
  | none => simp [required, requiredAs, lookup?, hfind]
  | some value => cases value <;> simp [required, requiredAs, lookup?, hfind, text]

theorem text?_of_build_optional {name : String} {o : Option String}
    (h : (optional name text).build values = .ok o) : values.text? name = o := by
  cases hfind : values.find? name with
  | none => simpa [optional, hfind, Variables.text?] using h
  | some value =>
    cases value <;>
      simp_all [optional, nullable, text, Variables.text?, Json.asText?, Except.map]

theorem build_optional_text_eq_ok {name s : String} (h : values.text? name = some s) :
    (optional name text).build values = .ok (some s) := by
  rw [Variables.text?_eq_some_iff] at h
  simp [optional, h, nullable, text, Except.map]

section Congr

variable {values' : Variables}

/-- A field depends on the members of its names only. -/
theorem build_requiredAs_congr {name : String} {aliases : List String} {read : ValueReader α}
    (h : ∀ n ∈ name :: aliases, values'.find? n = values.find? n) :
    (requiredAs name aliases read).build values' = (requiredAs name aliases read).build values := by
  have hlookup : lookup? values' (name :: aliases) = lookup? values (name :: aliases) := by
    rw [lookup?, lookup?]
    generalize name :: aliases = names at h
    induction names with
    | nil => rfl
    | cons n names ih =>
      rw [List.forall_mem_cons] at h
      rw [List.findSome?_cons, List.findSome?_cons, h.1, ih h.2]
  simp only [requiredAs, hlookup]

theorem build_required_congr {name : String} {read : ValueReader α}
    (h : values'.find? name = values.find? name) :
    (required name read).build values' = (required name read).build values :=
  build_requiredAs_congr (by simpa using h)

theorem build_optional_congr {name : String} {read : ValueReader α}
    (h : values'.find? name = values.find? name) :
    (optional name read).build values' = (optional name read).build values := by
  simp only [optional, h]

theorem build_map_congr {g : α → β} {x : RecordReader α} (h : x.build values' = x.build values) :
    (g <$> x).build values' = (g <$> x).build values := bind_congr_of_ok fun _ _ => by rw [h]

theorem build_seq_congr {f : RecordReader (α → β)} {x : RecordReader α}
    (hf : f.build values' = f.build values) (hx : x.build values' = x.build values) :
    (f <*> x).build values' = (f <*> x).build values := by
  have hunfold : ∀ vs : Variables, (f <*> x).build vs =
      f.build vs >>= fun g => x.build vs >>= fun a => .ok (g a) := fun _ => rfl
  rw [hunfold, hunfold, hf, hx]

end Congr

/-! ## Checking -/

/-- A reader that finds no fault in the values from which it builds a record. -/
structure IsPlain (r : RecordReader α) : Prop where
  aliases : ∀ f ∈ r.fields, f.aliases = []
  fault : ∀ {values : Variables} {a : α}, r.build values = .ok a →
    ∀ f ∈ r.fields, ∀ v, values.find? f.name = some v → f.fault? v = none

theorem isPlain_map {g : α → β} {x : RecordReader α} (hx : x.IsPlain) : (g <$> x).IsPlain where
  aliases := hx.aliases
  fault {values b} h := by
    obtain ⟨a, ha, -⟩ := exists_build_map_iff (P := fun _ => True) |>.1 ⟨b, h, trivial⟩
    exact hx.fault ha

theorem isPlain_seq {f : RecordReader (α → β)} {x : RecordReader α} (hf : f.IsPlain)
    (hx : x.IsPlain) : (f <*> x).IsPlain where
  aliases c hc := (List.mem_append.1 hc).elim (hf.aliases c) (hx.aliases c)
  fault {values b} h c hc := by
    obtain ⟨g, hg, a, ha, -⟩ := exists_build_seq_iff (P := fun _ => True) |>.1 ⟨b, h, trivial⟩
    exact (List.mem_append.1 hc).elim (hf.fault hg c) (hx.fault ha c)

theorem isPlain_required (name : String) (read : ValueReader α) : (required name read).IsPlain where
  aliases := by simp [required, requiredAs]
  fault {values a} h c hc v hv := by
    obtain rfl := List.mem_singleton.1 hc
    have hread : read v = .ok a := by simpa [required, requiredAs, lookup?, hv] using h
    simp [faultOf?, hread]

theorem isPlain_optional (name : String) (read : ValueReader α) : (optional name read).IsPlain where
  aliases := by simp [optional]
  fault {values a} h c hc v hv := by
    obtain rfl := List.mem_singleton.1 hc
    have hread : nullable read v = .ok a := by simpa [optional, hv] using h
    simp [faultOf?, hread]

theorem checkMembers_eq_none {fields : List Field} {members : List (String × Json)}
    (haliases : ∀ f ∈ fields, f.aliases = [])
    (hfault : ∀ f ∈ fields, ∀ v, (f.name, v) ∈ members → f.fault? v = none)
    (hnodup : (members.map Prod.fst).Nodup) (seen : List String)
    (hseen : ∀ m ∈ members, m.1 ∉ seen) : checkMembers fields seen members = none := by
  induction members generalizing seen with
  | nil => rfl
  | cons m members ih =>
    obtain ⟨name, value⟩ := m
    rw [List.map_cons, List.nodup_cons] at hnodup
    have hrest := ih (fun f hf v hv => hfault f hf v (List.mem_cons_of_mem _ hv)) hnodup.2
    rw [checkMembers]
    cases hfind : fields.find? fun f => f.accepts name with
    | none => exact hrest seen fun m hm => hseen m (List.mem_cons_of_mem _ hm)
    | some f =>
      have hf := List.mem_of_find?_eq_some hfind
      have hname : f.name = name := by
        simpa [Field.accepts, haliases f hf] using List.find?_some hfind
      subst hname
      have hnew : seen.contains f.name = false := by
        simpa using hseen _ List.mem_cons_self
      have hvalue := hfault f hf value List.mem_cons_self
      simp only [hnew, hvalue, Bool.false_eq_true, if_false]
      refine hrest _ fun m hm => ?_
      rw [List.mem_cons, not_or]
      refine ⟨?_, hseen m (List.mem_cons_of_mem _ hm)⟩
      intro heq
      exact hnodup.1 (List.mem_map.2 ⟨m, hm, heq⟩)

theorem build_of_run {r : RecordReader α} {a : α} (h : r.run values = .ok a) :
    r.build values = .ok a := by
  rw [run] at h
  split at h
  · cases h
  · exact h

theorem IsPlain.run_eq_ok_iff {r : RecordReader α} (hr : r.IsPlain) {a : α} :
    r.run values = .ok a ↔ r.build values = .ok a := by
  refine ⟨build_of_run, fun h => ?_⟩
  have hcheck : checkMembers r.fields [] values.toList = none := by
    refine checkMembers_eq_none hr.aliases (fun f hf v hv => ?_) values.nodup_keys [] (by simp)
    exact hr.fault h f hf v ((values.find?_eq_some_iff).2 hv)
  rw [run, hcheck]
  exact h

/-! ## Dependence -/

/-- A reader whose fields go by some names only, and which builds a record from the members of these
names. -/
structure DependsOn (r : RecordReader α) (names : List String) : Prop where
  accepts : ∀ f ∈ r.fields, ∀ n, f.accepts n → n ∈ names
  build : ∀ {values values' : Variables}, Dict.AgreeOn names values' values →
    r.build values' = r.build values

variable {names : List String}

theorem dependsOn_map {g : α → β} {x : RecordReader α} (hx : x.DependsOn names) :
    (g <$> x).DependsOn names where
  accepts := hx.accepts
  build h := build_map_congr (hx.build h)

theorem dependsOn_seq {f : RecordReader (α → β)} {x : RecordReader α} (hf : f.DependsOn names)
    (hx : x.DependsOn names) : (f <*> x).DependsOn names where
  accepts c hc := (List.mem_append.1 hc).elim (hf.accepts c) (hx.accepts c)
  build h := build_seq_congr (hf.build h) (hx.build h)

theorem dependsOn_requiredAs {name : String} {aliases : List String} (read : ValueReader α)
    (h : ∀ n ∈ name :: aliases, n ∈ names) : (requiredAs name aliases read).DependsOn names where
  accepts c hc n hn := by
    obtain rfl := List.mem_singleton.1 hc
    have hname : name = n ∨ n ∈ aliases := by simpa [Field.accepts] using hn
    exact h n (List.mem_cons.2 (hname.imp_left Eq.symm))
  build hagree := build_requiredAs_congr fun n hn => hagree n (h n hn)

theorem dependsOn_required {name : String} (read : ValueReader α) (h : name ∈ names) :
    (required name read).DependsOn names := dependsOn_requiredAs read (by simpa using h)

theorem dependsOn_optional {name : String} (read : ValueReader α) (h : name ∈ names) :
    (optional name read).DependsOn names where
  accepts c hc n hn := by
    obtain rfl := List.mem_singleton.1 hc
    obtain rfl : name = n := by simpa [Field.accepts] using hn
    exact h
  build hagree := build_optional_congr (hagree name h)

/-- Members that are no fields are passed over. -/
theorem checkMembers_filter {fields : List Field}
    (h : ∀ f ∈ fields, ∀ n, f.accepts n → n ∈ names) (seen : List String)
    (members : List (String × Json)) :
    checkMembers fields seen (members.filter fun m => m.1 ∈ names) =
      checkMembers fields seen members := by
  induction members generalizing seen with
  | nil => rfl
  | cons m members ih =>
    obtain ⟨name, value⟩ := m
    by_cases hname : name ∈ names
    · rw [List.filter_cons_of_pos (by simpa using hname)]
      simp only [checkMembers, ih]
    · have hnone : (fields.find? fun f => f.accepts name) = none := by
        rw [List.find?_eq_none]
        exact fun f hf haccepts => hname (h f hf name haccepts)
      rw [List.filter_cons_of_neg (by simpa using hname), ih, checkMembers, hnone]

/-- A reader reads the same, or finds the same fault, in members that agree on its names. -/
theorem DependsOn.run_congr {r : RecordReader α} (hr : r.DependsOn names) {values' : Variables}
    (h : Dict.AgreeOn names values' values) : r.run values' = r.run values := by
  have hcheck : checkMembers r.fields [] values'.toList =
      checkMembers r.fields [] values.toList := by
    rw [← checkMembers_filter hr.accepts, h.filter_toList, checkMembers_filter hr.accepts]
  rw [run, run, hcheck, hr.build h]

end Reading.RecordReader

end PaymentBooking
