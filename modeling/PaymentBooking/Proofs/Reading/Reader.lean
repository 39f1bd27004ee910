import PaymentBooking.Proofs.Reading.Declaration

/-! # Readers of declared records

A reader made of the fields of a list of declarations reads exactly the variables that fit the list,
and reports the first fault of all others. Its check visits the members one after the other: what it
has seen are the fields of the members before, so a second name of a field is found at the later of
the two.
-/

namespace PaymentBooking.Reading

variable {ds es : List Declaration} {f : Fault}

/-- A field that a record reader checks as it is declared. -/
structure Field.Realizes (c : Field) (d : Declaration) : Prop where
  name : c.name = d.name
  aliases : c.aliases = d.aliases
  takes : ∀ v, c.fault? v = none → ∃ x, d.Takes v x
  fault : ∀ v f, c.fault? v = some f → f = d.type.fault v ∧ ∀ x, ¬d.Takes v x

theorem Field.Realizes.accepts_iff {c : Field} {d : Declaration} (h : c.Realizes d) {n : String} :
    c.accepts n ↔ n ∈ d.names := by
  rw [Field.accepts, h.name, h.aliases, Declaration.names, List.mem_cons, eq_comm (a := n)]
  simp

/-- A reader whose fields are those declared, and which builds a record of the variables that fit
them. -/
structure RecordReader.Declares {α : Type} (r : RecordReader α) (ds : List Declaration) : Prop where
  declared : ∀ c ∈ r.fields, ∃ d ∈ ds, c.Realizes d
  read : ∀ d ∈ ds, ∃ c ∈ r.fields, c.Realizes d
  build : ∀ {vars}, Fits vars ds → ∃ a, r.build vars = .ok a
  missing : ∀ {vars f}, NoneBad vars ds → FirstMissing vars ds f → r.build vars = .error f

namespace RecordReader

variable {α β : Type}

theorem declares_map {g : α → β} {x : RecordReader α} (hx : x.Declares ds) :
    (g <$> x).Declares ds where
  declared := hx.declared
  read := hx.read
  build hfits := by
    obtain ⟨a, ha⟩ := hx.build hfits
    obtain ⟨b, hb, -⟩ := exists_build_map_iff (P := fun _ => True) |>.2 ⟨a, ha, trivial⟩
    exact ⟨b, hb⟩
  missing hbad hmissing := bind_eq_error_iff.2 <| .inr ⟨g, rfl,
    bind_eq_error_iff.2 <| .inl <| hx.missing hbad hmissing⟩

theorem declares_seq {r : RecordReader (α → β)} {x : RecordReader α} (hr : r.Declares ds)
    (hx : x.Declares es) : (r <*> x).Declares (ds ++ es) where
  declared c hc := by
    rcases List.mem_append.1 hc with hc | hc
    · obtain ⟨d, hd, h⟩ := hr.declared c hc
      exact ⟨d, List.mem_append_left _ hd, h⟩
    · obtain ⟨d, hd, h⟩ := hx.declared c hc
      exact ⟨d, List.mem_append_right _ hd, h⟩
  read d hd := by
    rcases List.mem_append.1 hd with hd | hd
    · obtain ⟨c, hc, h⟩ := hr.read d hd
      exact ⟨c, List.mem_append_left _ hc, h⟩
    · obtain ⟨c, hc, h⟩ := hx.read d hd
      exact ⟨c, List.mem_append_right _ hc, h⟩
  build hfits := by
    obtain ⟨g, hg⟩ := hr.build (fits_append.1 hfits).1
    obtain ⟨a, ha⟩ := hx.build (fits_append.1 hfits).2
    obtain ⟨b, hb, -⟩ :=
      exists_build_seq_iff (P := fun _ => True) |>.2 ⟨g, hg, a, ha, trivial⟩
    exact ⟨b, hb⟩
  missing {vars f} hbad hmissing := by
    obtain ⟨hds, hes⟩ := noneBad_append.1 hbad
    rcases hds.fits_or_firstMissing with hfits | ⟨g, hg⟩
    · obtain ⟨b, hb⟩ := hr.build hfits
      refine bind_eq_error_iff.2 <| .inr ⟨b, hb, bind_eq_error_iff.2 <| .inl <| hx.missing hes ?_⟩
      exact hmissing.of_append_of_fits hfits
    · obtain rfl := hmissing.unique (hg.append es)
      exact bind_eq_error_iff.2 <| .inl <| hr.missing hds hg

/-! ### Fields -/

/-- A reader of one field as it is declared. -/
structure IsField (r : RecordReader α) (d : Declaration) (wrap : α → Option FieldValue) : Prop where
  realizes : ∃ c, r.fields = [c] ∧ c.Realizes d
  holds : ∀ {vars x}, d.Holds vars x → ∃ a, r.build vars = .ok a ∧ wrap a = x
  missing : ∀ {vars}, d.Missing vars → r.build vars = .error (.missingField d.name)

theorem IsField.declares {r : RecordReader α} {d : Declaration} {wrap : α → Option FieldValue}
    (h : r.IsField d wrap) : r.Declares [d] where
  declared c hc := by
    obtain ⟨c', hfields, hc'⟩ := h.realizes
    rw [hfields, List.mem_singleton] at hc
    exact ⟨d, List.mem_singleton_self d, hc ▸ hc'⟩
  read e he := by
    obtain ⟨c, hfields, hc⟩ := h.realizes
    rw [List.mem_singleton] at he
    exact ⟨c, hfields ▸ List.mem_singleton_self c, he ▸ hc⟩
  build hfits := by
    obtain ⟨x, hx⟩ := hfits d (List.mem_singleton_self d)
    obtain ⟨a, ha, -⟩ := h.holds hx
    exact ⟨a, ha⟩
  missing _ hmissing := by
    obtain ⟨before, e, after, heq, -, he, rfl⟩ := hmissing
    cases before with
    | nil => cases heq; exact h.missing he
    | cons _ before => simp at heq

theorem IsField.holds_of_build {r : RecordReader α} {d : Declaration}
    {wrap : α → Option FieldValue} {vars : Variables} {a : α} (h : r.IsField d wrap)
    (hholds : ∃ x, d.Holds vars x) (ha : r.build vars = .ok a) : d.Holds vars (wrap a) := by
  obtain ⟨x, hx⟩ := hholds
  obtain ⟨b, hb, rfl⟩ := h.holds hx
  rw [ha] at hb
  cases hb
  exact hx

theorem realizes_of_read {read : ValueReader α} {d : Declaration}
    (htakes : ∀ v, (∃ a, read v = .ok a) ↔ ∃ x, d.Takes v x)
    (hfault : ∀ v f, read v = .error f → f = d.type.fault v) :
    Field.Realizes ⟨d.name, d.aliases, faultOf? read⟩ d where
  name := rfl
  aliases := rfl
  takes v h := by
    cases hread : read v with
    | ok a => exact (htakes v).1 ⟨a, hread⟩
    | error f => simp [faultOf?, hread] at h
  fault v f h := by
    cases hread : read v with
    | ok a => simp [faultOf?, hread] at h
    | error g =>
      obtain rfl : g = f := by simpa [faultOf?, hread] using h
      refine ⟨hfault v g hread, fun x hx => ?_⟩
      obtain ⟨a, ha⟩ := (htakes v).2 ⟨x, hx⟩
      rw [hread] at ha
      cases ha

theorem lookup?_of_absent {vars : Variables} {names : List String}
    (h : ∀ n ∈ names, vars.find? n = none) : lookup? vars names = none :=
  List.findSome?_eq_none_iff.2 h

/-- The only one of several names that a variable has is the one that counts. -/
theorem lookup?_of_unique {vars : Variables} {names : List String} {n : String} {v : Json}
    (hn : n ∈ names) (hv : vars.find? n = some v)
    (hunique : ∀ n' ∈ names, n' ≠ n → vars.find? n' = none) : lookup? vars names = some v := by
  cases hlookup : lookup? vars names with
  | none => simp [List.findSome?_eq_none_iff.1 hlookup n hn] at hv
  | some w =>
    obtain ⟨n', hn', hw⟩ := List.exists_of_findSome?_eq_some hlookup
    by_cases hne : n' = n
    · rw [← hw, ← hv, hne]
    · simp [hunique n' hn' hne] at hw

variable {read : ValueReader α} {t : FieldType} {wrap : α → FieldValue}

theorem isField_requiredAs (ht : ReadsType read t wrap) (name : String) (aliases : List String) :
    (requiredAs name aliases read).IsField ⟨name, aliases, t, false⟩ fun a => some (wrap a) := by
  let d : Declaration := ⟨name, aliases, t, false⟩
  have htakes : ∀ {v x}, d.Takes v x → ∃ a, read v = .ok a ∧ some (wrap a) = x := by
    intro v x h
    cases x with
    | none => cases h.1
    | some x =>
      obtain ⟨a, ha, rfl⟩ := ReadsType.exists_read (d := d) ht h
      exact ⟨a, ha, rfl⟩
  refine ⟨⟨_, rfl, realizes_of_read (d := d) (fun v => ⟨?_, ?_⟩) ht.fault⟩, ?_, ?_⟩
  · rintro ⟨a, ha⟩
    exact ⟨some (wrap a), ht.type a, (ht.ok v a).1 ha⟩
  · rintro ⟨x, hx⟩
    obtain ⟨a, ha, -⟩ := htakes hx
    exact ⟨a, ha⟩
  · intro vars x hholds
    cases hholds with
    | absent hoptional _ => cases hoptional
    | found hname hfind hunique hx =>
      obtain ⟨a, ha, rfl⟩ := htakes hx
      have hlookup : lookup? vars (name :: aliases) = some _ :=
        lookup?_of_unique hname hfind hunique
      exact ⟨a, by simp only [requiredAs, hlookup, ha], rfl⟩
  · intro vars h
    have hlookup : lookup? vars (name :: aliases) = none := lookup?_of_absent h.2
    simp only [requiredAs, hlookup]

theorem isField_required (ht : ReadsType read t wrap) (name : String) :
    (required name read).IsField (.required name t) fun a => some (wrap a) :=
  isField_requiredAs ht name []

theorem nullable_of_ne_null {v : Json} (h : v ≠ .null) :
    nullable read v = (read v).map some := by
  cases v <;> first | rfl | exact absurd rfl h

theorem exists_nullable_iff (ht : ReadsType read t wrap) (name : String) {v : Json}
    {x : Option FieldValue} :
    (∃ o, nullable read v = .ok o ∧ o.map wrap = x) ↔ (Declaration.optional name t).Takes v x := by
  constructor
  · rintro ⟨o, ho, rfl⟩
    by_cases hnull : v = .null
    · rw [hnull] at ho
      cases ho
      exact ⟨rfl, hnull⟩
    · rw [nullable_of_ne_null hnull] at ho
      obtain ⟨a, ha, rfl⟩ := map_eq_ok_iff.1 ho
      exact ⟨ht.type a, (ht.ok v a).1 ha⟩
  · intro h
    cases x with
    | none =>
      obtain ⟨-, rfl⟩ := h
      exact ⟨none, rfl, rfl⟩
    | some x =>
      obtain ⟨a, ha, rfl⟩ := ReadsType.exists_read (d := .optional name t) ht h
      have hnull : v ≠ .null := by
        rintro rfl
        exact (wrap a).not_of_null h.2
      exact ⟨some a, by rw [nullable_of_ne_null hnull, ha]; rfl, rfl⟩

theorem fault_of_nullable (ht : ReadsType read t wrap) {v : Json} {f : Fault}
    (h : nullable read v = .error f) : f = t.fault v := by
  by_cases hnull : v = .null
  · rw [hnull] at h
    cases h
  · rw [nullable_of_ne_null hnull] at h
    cases hread : read v with
    | ok a => simp [hread, Except.map] at h
    | error g =>
      obtain rfl : g = f := by simpa [hread, Except.map] using h
      exact ht.fault v g hread

theorem isField_optional (ht : ReadsType read t wrap) (name : String) :
    (optional name read).IsField (.optional name t) (Option.map wrap) := by
  have htakes : ∀ v, (∃ o, nullable read v = .ok o) ↔
      ∃ x, (Declaration.optional name t).Takes v x := by
    intro v
    simp only [← exists_nullable_iff ht]
    exact ⟨fun ⟨o, ho⟩ => ⟨_, o, ho, rfl⟩, fun ⟨_, o, ho, _⟩ => ⟨o, ho⟩⟩
  refine ⟨⟨_, rfl, realizes_of_read (d := .optional name t) htakes fun _ _ =>
    fault_of_nullable ht⟩, fun {vars} x hholds => ?_, nofun⟩
  cases hholds with
  | absent _ habsent =>
    have hfind : vars.find? name = none := habsent name List.mem_cons_self
    exact ⟨none, by simp only [optional, hfind], rfl⟩
  | found hname hfind _ hx =>
    obtain ⟨o, ho, rfl⟩ := (exists_nullable_iff ht name).2 hx
    obtain rfl := List.mem_singleton.1 hname
    exact ⟨o, by simpa only [optional, hfind] using ho, rfl⟩

theorem Declares.required {r : RecordReader (α → β)} (hr : r.Declares ds)
    (ht : ReadsType read t wrap) (name : String) :
    (r <*> RecordReader.required name read).Declares (ds ++ [.required name t]) :=
  declares_seq hr (isField_required ht name).declares

theorem Declares.optional {r : RecordReader (Option α → β)} (hr : r.Declares ds)
    (ht : ReadsType read t wrap) (name : String) :
    (r <*> RecordReader.optional name read).Declares (ds ++ [.optional name t]) :=
  declares_seq hr (isField_optional ht name).declares

/-! ### Records -/

variable {r : RecordReader α} {vars : Variables} {done rest : List (String × Json)}
  {seen : List String}

/-- The fields that have been seen are those of which a member has been visited. -/
def Seen (ds : List Declaration) (done : List (String × Json)) (seen : List String) : Prop :=
  ∀ d ∈ ds, d.name ∈ seen ↔ ∃ n ∈ d.names, n ∈ done.map Prod.fst

theorem Seen.skip {m : String × Json} (h : Seen ds done seen) (hm : ∀ d ∈ ds, m.1 ∉ d.names) :
    Seen ds (done ++ [m]) seen := by
  intro d hd
  rw [h d hd]
  refine exists_congr fun n => and_congr_right fun hn => ?_
  have hne : n ≠ m.1 := fun heq => hm d hd (heq ▸ hn)
  simp [hne]

theorem Seen.visit {m : String × Json} {d : Declaration} (h : Seen ds done seen)
    (hdistinct : Distinct ds) (hd : d ∈ ds) (hm : m.1 ∈ d.names) :
    Seen ds (done ++ [m]) (d.name :: seen) := by
  intro e he
  rw [List.mem_cons, h e he]
  constructor
  · rintro (hname | ⟨n, hn, hdone⟩)
    · obtain rfl := hdistinct e he d hd e.name List.mem_cons_self (hname ▸ List.mem_cons_self)
      exact ⟨m.1, hm, by simp⟩
    · exact ⟨n, hn, by simp [hdone]⟩
  · rintro ⟨n, hn, hmem⟩
    rw [List.map_append, List.mem_append, List.map_singleton, List.mem_singleton] at hmem
    rcases hmem with hdone | rfl
    · exact .inr ⟨n, hn, hdone⟩
    · obtain rfl := hdistinct e he d hd m.1 hn hm
      exact .inl rfl

/-- A member is either bad and its fault reported, or it is passed and not bad. -/
theorem Declares.checkMembers_cons (hr : r.Declares ds) (hdistinct : Distinct ds) {name : String}
    {v : Json} (hsplit : vars.toList = done ++ (name, v) :: rest) (hseen : Seen ds done seen) :
    (∃ d ∈ ds, ∃ f, d.FaultAt vars name f ∧
      checkMembers r.fields seen ((name, v) :: rest) = some f) ∨
    (∀ d ∈ ds, ∀ f, ¬d.FaultAt vars name f) ∧ ∃ seen', Seen ds (done ++ [(name, v)]) seen' ∧
      checkMembers r.fields seen ((name, v) :: rest) = checkMembers r.fields seen' rest := by
  have hfind : vars.find? name = some v := vars.find?_eq_some_iff.2 (by simp [hsplit])
  cases hfield : r.fields.find? fun c => c.accepts name with
  | none =>
    have hnot : ∀ d ∈ ds, name ∉ d.names := by
      intro d hd hmem
      obtain ⟨c, hc, hcd⟩ := hr.read d hd
      exact List.find?_eq_none.1 hfield c hc (hcd.accepts_iff.2 hmem)
    refine .inr ⟨fun d hd f hf => hnot d hd hf.mem_names, seen, hseen.skip hnot, ?_⟩
    simp only [checkMembers, hfield]
  | some c =>
    obtain ⟨d, hd, hcd⟩ := hr.declared c (List.mem_of_find?_eq_some hfield)
    have haccepts : c.accepts name := by simpa using List.find?_some hfield
    have hname : name ∈ d.names := hcd.accepts_iff.1 haccepts
    have honly : ∀ e ∈ ds, ∀ f, e.FaultAt vars name f → e = d := fun e he f hf =>
      hdistinct e he d hd name hf.mem_names hname
    by_cases hold : d.name ∈ seen
    · obtain ⟨n, hn, hdone⟩ := (hseen d hd).1 hold
      obtain ⟨hlt, w, hw⟩ := (Dict.mem_keys_of_split hsplit).1 hdone
      refine .inl ⟨d, hd, _, .duplicate hn hname hlt hw hfind, ?_⟩
      simp [checkMembers, hfield, hcd.name, hold]
    · have hfirst : ∀ n ∈ d.names, compare n name = .lt → vars.find? n = none := by
        intro n hn hlt
        cases hw : vars.find? n with
        | none => rfl
        | some w =>
          have hdone := (Dict.mem_keys_of_split hsplit).2 ⟨hlt, w, hw⟩
          exact absurd ((hseen d hd).2 ⟨n, hn, hdone⟩) hold
      cases hfault : c.fault? v with
      | some f =>
        obtain ⟨rfl, hbad⟩ := hcd.fault v f hfault
        refine .inl ⟨d, hd, _, .value hname hfind hfirst hbad, ?_⟩
        simp [checkMembers, hfield, hcd.name, hold, hfault]
      | none =>
        refine .inr ⟨fun e he f hf => ?_, d.name :: seen, hseen.visit hdistinct hd hname, ?_⟩
        · obtain rfl := honly e he f hf
          obtain ⟨x, hx⟩ := hcd.takes v hfault
          cases hf with
          | duplicate hearlier _ hlt hv _ => simp [hfirst _ hearlier hlt] at hv
          | value _ hfind' _ hbad =>
            rw [hfind] at hfind'
            cases hfind'
            exact hbad x hx
        · simp [checkMembers, hfield, hcd.name, hold, hfault]

theorem Declares.checkMembers_cases (hr : r.Declares ds) (hdistinct : Distinct ds)
    (hsplit : vars.toList = done ++ rest) (hseen : Seen ds done seen)
    (hdone : ∀ n ∈ done.map Prod.fst, ∀ d ∈ ds, ∀ f, ¬d.FaultAt vars n f) :
    (checkMembers r.fields seen rest = none ∧ NoneBad vars ds) ∨
      ∃ f, checkMembers r.fields seen rest = some f ∧ FirstBad vars ds f := by
  induction rest generalizing done seen with
  | nil =>
    refine .inl ⟨rfl, fun d hd name f hf => ?_⟩
    obtain ⟨v, hv⟩ := hf.exists_find?
    have hmem := vars.find?_eq_some_iff.1 hv
    rw [hsplit, List.append_nil] at hmem
    exact hdone name (List.mem_map.2 ⟨_, hmem, rfl⟩) d hd f hf
  | cons m rest ih =>
    obtain ⟨name, v⟩ := m
    rcases hr.checkMembers_cons hdistinct hsplit hseen with
      ⟨d, hd, f, hf, hcheck⟩ | ⟨hgood, seen', hseen', hcheck⟩
    · refine .inr ⟨f, hcheck, name, ⟨d, hd, hf⟩, fun smaller hlt e he g hg => ?_⟩
      have hmem := (Dict.mem_keys_of_split hsplit).2 ⟨hlt, hg.exists_find?⟩
      exact hdone smaller hmem e he g hg
    · rw [hcheck]
      refine ih (by simpa using hsplit) hseen' fun n hn => ?_
      rw [List.map_append, List.mem_append] at hn
      rcases hn with hn | hn
      · exact hdone n hn
      · obtain rfl := List.mem_singleton.1 hn
        exact hgood

/-- Variables fit and are read, or do not and their first fault is reported. -/
theorem Declares.run_cases (hr : r.Declares ds) (hdistinct : Distinct ds) (vars : Variables) :
    (Fits vars ds ∧ ∃ a, r.run vars = .ok a) ∨
      ∃ f, FirstFault vars ds f ∧ r.run vars = .error f := by
  have hseen : Seen ds [] [] := fun d _ => by simp
  have hsplit : vars.toList = [] ++ vars.toList := rfl
  rcases hr.checkMembers_cases hdistinct hsplit hseen nofun with
    ⟨hcheck, hbad⟩ | ⟨f, hcheck, hbad⟩
  · have hrun : r.run vars = r.build vars := by rw [run, hcheck]
    rw [hrun]
    rcases hbad.fits_or_firstMissing with hfits | ⟨f, hf⟩
    · exact .inl ⟨hfits, hr.build hfits⟩
    · exact .inr ⟨f, .inr ⟨hbad, hf⟩, hr.missing hbad hf⟩
  · exact .inr ⟨f, .inl hbad, by rw [run, hcheck]⟩

theorem Declares.exists_run_iff (hr : r.Declares ds) (hdistinct : Distinct ds) :
    (∃ a, r.run vars = .ok a) ↔ Fits vars ds := by
  rcases hr.run_cases hdistinct vars with ⟨hfits, hrun⟩ | ⟨f, hf, hrun⟩
  · exact iff_of_true hrun hfits
  · exact iff_of_false (by simp [hrun]) fun hfits => hfits.not_firstFault hf

theorem Declares.run_eq_error_iff (hr : r.Declares ds) (hdistinct : Distinct ds) :
    r.run vars = .error f ↔ FirstFault vars ds f := by
  rcases hr.run_cases hdistinct vars with ⟨hfits, a, hrun⟩ | ⟨g, hg, hrun⟩
  · exact iff_of_false (by simp [hrun]) hfits.not_firstFault
  · rw [hrun, Except.error.injEq]
    exact ⟨fun heq => heq ▸ hg, fun hf => hg.unique hdistinct hf⟩

end RecordReader

end PaymentBooking.Reading
