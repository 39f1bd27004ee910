import PaymentBooking.Proofs.Reading.Record

/-! # Records as they are declared

A declaration says of a field which names it goes by, of what type its values are and whether it may
be missing. Variables fit a list of declarations if every field holds something by them. Of
variables that do not fit, the first fault is reported: that of the bad variable with the smallest
name, and only if no variable is bad that of the first field declared that is missing. So exactly
one is the case: the variables fit, or there is one first fault.
-/

namespace PaymentBooking

theorem Amount.ofDecimal_eq_ok_iff {d : Decimal} {a : Amount} :
    ofDecimal d = .ok a ↔ d = a.value := by
  rw [ofDecimal]
  split
  · exact ⟨by rintro ⟨⟩; rfl, by rintro rfl; rfl⟩
  · rename_i hd
    exact ⟨nofun, by rintro rfl; exact absurd a.positive hd⟩

theorem Amount.ofDecimal_eq_error {d : Decimal} {e : MoneyFault}
    (h : ofDecimal d = .error e) : e = .amountNotPositive d := by
  rw [ofDecimal] at h
  split at h <;> cases h
  rfl

theorem Fee.ofDecimal_eq_ok_iff {d : Decimal} {a : Fee} :
    ofDecimal d = .ok a ↔ d = a.value := by
  rw [ofDecimal]
  split
  · exact ⟨by rintro ⟨⟩; rfl, by rintro rfl; rfl⟩
  · rename_i hd
    exact ⟨nofun, by rintro rfl; exact absurd a.nonnegative hd⟩

theorem Fee.ofDecimal_eq_error {d : Decimal} {e : MoneyFault}
    (h : ofDecimal d = .error e) : e = .feeNegative d := by
  rw [ofDecimal] at h
  split at h <;> cases h
  rfl

namespace Reading

/-! ## Values -/

inductive FieldType where
  | text
  /-- The number of an account, of 64 bits with sign. -/
  | account
  | amount
  | fee
deriving DecidableEq

/-- A value of one of the types. An amount is above zero, a fee is not below it. -/
inductive FieldValue where
  | text (s : String)
  | account (n : Int64)
  | amount (a : Amount)
  | fee (f : Fee)
deriving DecidableEq

def FieldValue.type : FieldValue → FieldType
  | .text _ => .text
  | .account _ => .account
  | .amount _ => .amount
  | .fee _ => .fee

/-- Whether a JSON value stands for this value. -/
def FieldValue.Of (v : Json) : FieldValue → Prop
  | .text s => v = .text s
  | .account n => ∃ whole : Json.Whole, v = .number (.whole whole) ∧ whole.value = n.toInt
  | .amount a => decimal? v = some a.value
  | .fee f => decimal? v = some f.value

def decimalFault : Json → Fault
  | .number n => wrongValue (.number n) decimalDescription
  | .text s => wrongValue (.text s) decimalDescription
  | v => wrongType v decimalDescription

def FieldType.fault : FieldType → Json → Fault
  | .text, v => wrongType v "a string"
  | .account, .number (.whole n) => wrongValue (.number (.whole n)) "i64"
  | .account, v => wrongType v "i64"
  | .amount, v => (decimal? v).elim (decimalFault v) fun d => .money (.amountNotPositive d)
  | .fee, v => (decimal? v).elim (decimalFault v) fun d => .money (.feeNegative d)

/-- A reader of the values of a type. -/
structure ReadsType {α : Type} (read : ValueReader α) (t : FieldType) (wrap : α → FieldValue) :
    Prop where
  type : ∀ a, (wrap a).type = t
  unwrap : ∀ x : FieldValue, x.type = t → ∃ a, wrap a = x
  ok : ∀ v a, read v = .ok a ↔ (wrap a).Of v
  fault : ∀ v f, read v = .error f → f = t.fault v

theorem FieldValue.not_of_null (x : FieldValue) : ¬x.Of .null := by
  cases x <;> simp [Of, decimal?]

theorem readsType_text : ReadsType text .text .text where
  type _ := rfl
  unwrap x hx := by cases x <;> simp_all [FieldValue.type]
  ok v s := by cases v <;> simp [text, FieldValue.Of]
  fault v f h := by cases v <;> simp_all [text, FieldType.fault]

theorem int64_whole_of_lt {n : Json.Whole} (h : n.value < 2 ^ (63 : ℕ)) :
    int64 (.number (.whole n)) = .ok (Int64.ofInt n.value) := by
  simp only [int64, Json.Number.toInt64?, h, if_true]

theorem int64_whole_of_le {n : Json.Whole} (h : ¬n.value < 2 ^ (63 : ℕ)) :
    int64 (.number (.whole n)) = .error (wrongValue (.number (.whole n)) "i64") := by
  simp only [int64, Json.Number.toInt64?, h, if_false, wrongValue, Found.of]

theorem readsType_int64 : ReadsType int64 .account .account where
  type _ := rfl
  unwrap x hx := by cases x <;> simp_all [FieldValue.type]
  ok v n := by
    cases v with
    | number number =>
      cases number with
      | whole w =>
        by_cases hw : w.value < 2 ^ (63 : ℕ)
        · have hint : (Int64.ofInt w.value).toInt = w.value := Int64.toInt_ofInt_of_le w.lower hw
          rw [int64_whole_of_lt hw]
          constructor
          · intro h
            cases h
            exact ⟨w, rfl, hint.symm⟩
          · rintro ⟨w', hw', hvalue⟩
            cases hw'
            rw [hvalue, Int64.ofInt_toInt]
        · have hne : w.value ≠ n.toInt := fun heq => hw (heq ▸ n.toInt_lt)
          simpa [int64_whole_of_le hw, FieldValue.Of] using hne
      | real x => simp [int64, FieldValue.Of]
    | _ => simp [int64, FieldValue.Of]
  fault v f h := by
    cases v with
    | number number =>
      cases number with
      | whole w =>
        by_cases hw : w.value < 2 ^ (63 : ℕ)
        · rw [int64_whole_of_lt hw] at h
          cases h
        · rw [int64_whole_of_le hw] at h
          exact (Except.error.inj h).symm
      | real x => exact (Except.error.inj h).symm
    | _ => exact (Except.error.inj h).symm

theorem decimal_eq_ok_iff {v : Json} {d : Decimal} : decimal v = .ok d ↔ decimal? v = some d := by
  cases hd : decimal? v with
  | some e => simp [decimal, hd]
  | none => cases v <;> simp [decimal, hd]

theorem decimal_eq_error_iff {v : Json} {f : Fault} :
    decimal v = .error f ↔ decimal? v = none ∧ decimalFault v = f := by
  cases hd : decimal? v with
  | some e => simp [decimal, hd]
  | none => cases v <;> simp [decimal, hd, decimalFault]

section Money

variable {α : Type} {of : Decimal → Except MoneyFault α}

theorem money_eq_ok_iff {value : α → Decimal} (hof : ∀ {d a}, of d = .ok a ↔ d = value a) {v : Json}
    {a : α} :
    (decimal v >>= fun d => (of d).mapError Fault.money) = .ok a ↔ decimal? v = some (value a) := by
  rw [bind_eq_ok_iff, ← decimal_eq_ok_iff]
  constructor
  · rintro ⟨d, hd, h⟩
    rw [← hof.1 (mapError_eq_ok_iff.1 h)]
    exact hd
  · intro h
    exact ⟨value a, h, mapError_eq_ok_iff.2 (hof.2 rfl)⟩

theorem money_eq_error {why : Decimal → MoneyFault} (hof : ∀ {d e}, of d = .error e → e = why d)
    {v : Json} {f : Fault}
    (h : (decimal v >>= fun d => (of d).mapError Fault.money) = .error f) :
    f = (decimal? v).elim (decimalFault v) fun d => .money (why d) := by
  rcases bind_eq_error_iff.1 h with h | ⟨d, hd, h⟩
  · obtain ⟨hnone, rfl⟩ := decimal_eq_error_iff.1 h
    rw [hnone]
    rfl
  · obtain ⟨e, he, rfl⟩ := mapError_eq_error_iff.1 h
    rw [decimal_eq_ok_iff.1 hd, hof he]
    rfl

end Money

theorem amount_eq_ok_iff {v : Json} {a : Amount} :
    amount v = .ok a ↔ decimal? v = some a.value := money_eq_ok_iff Amount.ofDecimal_eq_ok_iff

theorem fee_eq_ok_iff {v : Json} {f : Fee} : fee v = .ok f ↔ decimal? v = some f.value :=
  money_eq_ok_iff Fee.ofDecimal_eq_ok_iff

theorem readsType_amount : ReadsType amount .amount .amount where
  type _ := rfl
  unwrap x hx := by cases x <;> simp_all [FieldValue.type]
  ok _ _ := amount_eq_ok_iff
  fault _ _ := money_eq_error Amount.ofDecimal_eq_error

theorem readsType_fee : ReadsType fee .fee .fee where
  type _ := rfl
  unwrap x hx := by cases x <;> simp_all [FieldValue.type]
  ok _ _ := fee_eq_ok_iff
  fault _ _ := money_eq_error Fee.ofDecimal_eq_error

/-! ## Declarations -/

/-- What is declared of a field. -/
structure Declaration where
  name : String
  aliases : List String
  type : FieldType
  isOptional : Bool
deriving DecidableEq

namespace Declaration

def required (name : String) (type : FieldType) : Declaration := ⟨name, [], type, false⟩

def optional (name : String) (type : FieldType) : Declaration := ⟨name, [], type, true⟩

def names (d : Declaration) : List String := d.name :: d.aliases

/-- Whether a JSON value is one of the type of the field, or the `null` of an optional field. -/
def Takes (d : Declaration) (v : Json) : Option FieldValue → Prop
  | some x => x.type = d.type ∧ x.Of v
  | none => d.isOptional = true ∧ v = .null

def Absent (vars : Variables) (d : Declaration) : Prop := ∀ n ∈ d.names, vars.find? n = none

def Missing (vars : Variables) (d : Declaration) : Prop := d.isOptional = false ∧ d.Absent vars

/-- What a field holds by the variables: what the only one of its names has, or nothing. -/
inductive Holds (vars : Variables) (d : Declaration) : Option FieldValue → Prop
  | found {n : String} {v : Json} {x : Option FieldValue} (hname : n ∈ d.names)
      (hfind : vars.find? n = some v) (hunique : ∀ n' ∈ d.names, n' ≠ n → vars.find? n' = none)
      (h : d.Takes v x) : Holds vars d x
  | absent (hoptional : d.isOptional = true) (h : d.Absent vars) : Holds vars d none

/-- The fault of the variable of this name: there is one before it for the same field, or its value
is not one for the field. -/
inductive FaultAt (vars : Variables) (d : Declaration) (name : String) : Fault → Prop
  | duplicate {earlier : String} {v w : Json} (hearlier : earlier ∈ d.names)
      (hname : name ∈ d.names)
      (hlt : compare earlier name = .lt) (hv : vars.find? earlier = some v)
      (hw : vars.find? name = some w) : FaultAt vars d name (.duplicateField d.name)
  | value {v : Json} (hname : name ∈ d.names) (hfind : vars.find? name = some v)
      (hfirst : ∀ n ∈ d.names, compare n name = .lt → vars.find? n = none)
      (h : ∀ x, ¬d.Takes v x) : FaultAt vars d name (d.type.fault v)

variable {vars : Variables} {d : Declaration} {name : String} {f : Fault}

theorem FaultAt.mem_names (h : d.FaultAt vars name f) : name ∈ d.names := by
  cases h <;> assumption

theorem FaultAt.exists_find? (h : d.FaultAt vars name f) : ∃ v, vars.find? name = some v := by
  cases h <;> exact ⟨_, ‹_›⟩

theorem FaultAt.unique {g : Fault} (hf : d.FaultAt vars name f) (hg : d.FaultAt vars name g) :
    f = g := by
  cases hf with
  | duplicate hearlier _ hlt hv _ =>
    cases hg with
    | duplicate => rfl
    | value _ _ hfirst _ => simp [hfirst _ hearlier hlt] at hv
  | value _ hfind hfirst _ =>
    cases hg with
    | duplicate hearlier _ hlt hv _ => simp [hfirst _ hearlier hlt] at hv
    | value _ hfind' _ _ =>
      rw [hfind] at hfind'
      cases hfind'
      rfl

theorem Holds.not_missing {x : Option FieldValue} (h : d.Holds vars x) : ¬d.Missing vars := by
  rintro ⟨hrequired, habsent⟩
  cases h with
  | found hname hfind _ _ => simp [habsent _ hname] at hfind
  | absent hoptional _ => simp [hrequired] at hoptional

theorem Holds.not_faultAt {x : Option FieldValue} (h : d.Holds vars x) :
    ¬d.FaultAt vars name f := by
  intro hfault
  obtain ⟨v, hv⟩ := hfault.exists_find?
  cases h with
  | absent _ habsent => simp [habsent name hfault.mem_names] at hv
  | @found n w _ hname hfind hunique htakes =>
    have heq : ∀ n' ∈ d.names, ∀ u, vars.find? n' = some u → n' = n := by
      intro n' hn' u hu
      by_contra hne
      simp [hunique n' hn' hne] at hu
    cases hfault with
    | duplicate hearlier hname' hlt hv hw =>
      rw [heq _ hearlier _ hv, heq _ hname' _ hw, Std.compare_self] at hlt
      cases hlt
    | value hname' hfind' _ hbad =>
      obtain rfl := heq _ hname' _ hfind'
      rw [hfind] at hfind'
      cases hfind'
      exact hbad _ htakes

/-- A field that is not missing and has no bad variable holds something. -/
theorem exists_holds (hbad : ∀ n g, ¬d.FaultAt vars n g) (hmissing : ¬d.Missing vars) :
    ∃ x, d.Holds vars x := by
  by_cases habsent : d.Absent vars
  · have hoptional : d.isOptional = true := by simpa [Missing, habsent] using hmissing
    exact ⟨none, .absent hoptional habsent⟩
  simp only [Absent, not_forall] at habsent
  obtain ⟨n, hname, hfind⟩ := habsent
  obtain ⟨v, hv⟩ := Option.ne_none_iff_exists'.1 hfind
  have hunique : ∀ n' ∈ d.names, n' ≠ n → vars.find? n' = none := by
    intro n' hname' hne
    cases hfind' : vars.find? n' with
    | none => rfl
    | some w =>
      -- The later one of the two names is a duplicate.
      cases hc : compare n' n with
      | lt => exact absurd (.duplicate hname' hname hc hfind' hv) (hbad _ _)
      | eq => exact absurd (Std.compare_eq_iff_eq.1 hc) hne
      | gt =>
        exact absurd (.duplicate hname hname' (Std.OrientedCmp.gt_iff_lt.1 hc) hv hfind')
          (hbad _ _)
  by_contra hnone
  refine hbad n _ (.value hname hv (fun n' hname' hlt => hunique n' hname' ?_) fun x htakes => ?_)
  · rintro rfl
    rw [Std.compare_self] at hlt
    cases hlt
  · exact hnone ⟨x, .found hname hv hunique htakes⟩

end Declaration

theorem ReadsType.exists_read {α : Type} {read : ValueReader α} {wrap : α → FieldValue}
    {d : Declaration} (ht : ReadsType read d.type wrap) {v : Json} {x : FieldValue}
    (h : d.Takes v (some x)) : ∃ a, read v = .ok a ∧ wrap a = x := by
  obtain ⟨a, rfl⟩ := ht.unwrap x h.1
  exact ⟨a, (ht.ok v a).2 h.2, rfl⟩

/-! ## Lists of declarations -/

section Lists

variable (vars : Variables) (ds : List Declaration)

/-- Every field holds something by the variables. -/
def Fits : Prop := ∀ d ∈ ds, ∃ x, d.Holds vars x

def NoneBad : Prop := ∀ d ∈ ds, ∀ name f, ¬d.FaultAt vars name f

/-- The fault of the bad variable with the smallest name. -/
def FirstBad (f : Fault) : Prop :=
  ∃ name, (∃ d ∈ ds, d.FaultAt vars name f) ∧
    ∀ smaller, compare smaller name = .lt → ∀ d ∈ ds, ∀ g, ¬d.FaultAt vars smaller g

/-- The first field declared that is missing. -/
def FirstMissing (f : Fault) : Prop :=
  ∃ before d after, ds = before ++ d :: after ∧ (∀ e ∈ before, ¬e.Missing vars) ∧
    d.Missing vars ∧ f = .missingField d.name

def FirstFault (f : Fault) : Prop :=
  FirstBad vars ds f ∨ NoneBad vars ds ∧ FirstMissing vars ds f

def Distinct : Prop := ∀ d ∈ ds, ∀ e ∈ ds, ∀ n ∈ d.names, n ∈ e.names → d = e

instance : Decidable (Distinct ds) := by unfold Distinct; infer_instance

end Lists

variable {vars : Variables} {ds es : List Declaration} {f g : Fault}

theorem Fits.noneBad (h : Fits vars ds) : NoneBad vars ds := fun d hd _ _ =>
  have ⟨_, hholds⟩ := h d hd
  hholds.not_faultAt

theorem fits_nil : Fits vars [] := List.forall_mem_nil _

theorem fits_append : Fits vars (ds ++ es) ↔ Fits vars ds ∧ Fits vars es :=
  List.forall_mem_append

theorem noneBad_append : NoneBad vars (ds ++ es) ↔ NoneBad vars ds ∧ NoneBad vars es :=
  List.forall_mem_append

/-- Without a bad variable, a field is missing or else all fields hold something. -/
theorem NoneBad.fits_or_firstMissing (h : NoneBad vars ds) :
    Fits vars ds ∨ ∃ f, FirstMissing vars ds f := by
  induction ds with
  | nil => exact .inl nofun
  | cons d ds ih =>
    obtain ⟨hd, hds⟩ := List.forall_mem_cons.1 h
    by_cases hmissing : d.Missing vars
    · exact .inr ⟨_, [], d, ds, rfl, nofun, hmissing, rfl⟩
    · rcases ih hds with hfits | ⟨f, before, e, after, rfl, hbefore, he, rfl⟩
      · exact .inl (List.forall_mem_cons.2 ⟨Declaration.exists_holds hd hmissing, hfits⟩)
      · exact .inr ⟨_, d :: before, e, after, rfl,
          List.forall_mem_cons.2 ⟨hmissing, hbefore⟩, he, rfl⟩

theorem FirstMissing.unique (hf : FirstMissing vars ds f) (hg : FirstMissing vars ds g) :
    f = g := by
  obtain ⟨before, d, after, rfl, hbefore, hd, rfl⟩ := hf
  obtain ⟨before', e, after', heq, hbefore', he, rfl⟩ := hg
  rcases List.append_eq_append_iff.1 heq with ⟨between, rfl, hrest⟩ | ⟨between, rfl, hrest⟩
  · cases between with
    | nil => cases hrest; rfl
    | cons d' between => cases hrest; exact absurd hd (hbefore' _ (by simp))
  · cases between with
    | nil => cases hrest; rfl
    | cons d' between => cases hrest; exact absurd he (hbefore _ (by simp))

/-- What is missing first of some fields is missing first whatever is declared behind them. -/
theorem FirstMissing.append (h : FirstMissing vars ds f) (es : List Declaration) :
    FirstMissing vars (ds ++ es) f := by
  obtain ⟨before, d, after, rfl, hd⟩ := h
  exact ⟨before, d, after ++ es, by simp, hd⟩

theorem FirstMissing.of_append_of_fits (h : FirstMissing vars (ds ++ es) f)
    (hfits : Fits vars ds) : FirstMissing vars es f := by
  obtain ⟨before, d, after, heq, hbefore, hd, rfl⟩ := h
  rcases List.append_eq_append_iff.1 heq with ⟨between, rfl, hrest⟩ | ⟨between, rfl, hrest⟩
  · exact ⟨between, d, after, hrest, fun e he => hbefore e (List.mem_append_right _ he), hd, rfl⟩
  · cases between with
    | nil => exact ⟨[], d, after, hrest.symm, nofun, hd, rfl⟩
    | cons d' between =>
      cases hrest
      obtain ⟨x, hx⟩ := hfits d (by simp)
      exact absurd hd hx.not_missing

theorem FirstBad.unique (hdistinct : Distinct ds) (hf : FirstBad vars ds f)
    (hg : FirstBad vars ds g) : f = g := by
  obtain ⟨name, ⟨d, hd, hfault⟩, hfirst⟩ := hf
  obtain ⟨name', ⟨e, he, hfault'⟩, hfirst'⟩ := hg
  cases hc : compare name name' with
  | lt => exact absurd hfault (hfirst' name hc d hd f)
  | gt => exact absurd hfault' (hfirst name' (Std.OrientedCmp.gt_iff_lt.1 hc) e he g)
  | eq =>
    obtain rfl := Std.compare_eq_iff_eq.1 hc
    obtain rfl := hdistinct d hd e he name hfault.mem_names hfault'.mem_names
    exact hfault.unique hfault'

theorem FirstFault.unique (hdistinct : Distinct ds) (hf : FirstFault vars ds f)
    (hg : FirstFault vars ds g) : f = g := by
  rcases hf with hbad | ⟨hnone, hmissing⟩
  · rcases hg with hbad' | ⟨hnone', -⟩
    · exact hbad.unique hdistinct hbad'
    · obtain ⟨name, ⟨d, hd, hfault⟩, -⟩ := hbad
      exact absurd hfault (hnone' d hd name f)
  · rcases hg with hbad' | ⟨-, hmissing'⟩
    · obtain ⟨name, ⟨d, hd, hfault⟩, -⟩ := hbad'
      exact absurd hfault (hnone d hd name g)
    · exact hmissing.unique hmissing'

theorem Fits.not_firstFault (h : Fits vars ds) : ¬FirstFault vars ds f := by
  rintro (⟨name, ⟨d, hd, hfault⟩, -⟩ | ⟨-, before, d, after, rfl, -, hmissing, -⟩)
  · exact h.noneBad d hd name f hfault
  · obtain ⟨x, hx⟩ := h d (by simp)
    exact hx.not_missing hmissing

end Reading

end PaymentBooking
