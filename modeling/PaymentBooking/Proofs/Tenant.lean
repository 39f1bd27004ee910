import PaymentBooking.Proofs.Dict
import PaymentBooking.Settings.Basic

/-! # The directory of tenants

A directory that is made of tables of different tenants holds for each tenant its own tables and
those of no other, in whichever order they are registered. What a tenant answers is what its own
tables have an entry for.
-/

namespace PaymentBooking

namespace TenantDirectory

variable {d : TenantDirectory} {name : String} {tables : TenantTables}

/-- The directory holds these tables, or none, under a name. -/
structure Holds (d : TenantDirectory) (name : String) (found : Option TenantTables) : Prop where
  paymentTypes : d.paymentTypes.find? name = found.map TenantTables.paymentTypes
  codes : d.codes.find? name = found.bind TenantTables.codes
  technicalAccounts : d.technicalAccounts.find? name = found.bind TenantTables.technicalAccounts

theorem Holds.resolve_eq_ok (h : d.Holds name (some tables)) :
    d.resolve name = .ok ⟨name, tables⟩ := by
  rw [resolve, h.paymentTypes, h.codes, h.technicalAccounts]
  rfl

theorem Holds.resolve_eq_error (h : d.Holds name none) :
    d.resolve name = .error (.tenantNotConfigured name) := by
  rw [resolve, h.paymentTypes]
  rfl

/-- A directory is known by the tables that it holds. -/
theorem eq_of_holds {d' : TenantDirectory} {found : String → Option TenantTables}
    (h : ∀ name, d.Holds name (found name)) (h' : ∀ name, d'.Holds name (found name)) : d = d' := by
  have htypes := Dict.ext_find? fun name => (h name).paymentTypes.trans (h' name).paymentTypes.symm
  have hcodes := Dict.ext_find? fun name => (h name).codes.trans (h' name).codes.symm
  have haccounts := Dict.ext_find? fun name =>
    (h name).technicalAccounts.trans (h' name).technicalAccounts.symm
  cases d
  cases d'
  exact (mk.injEq ..).mpr ⟨htypes, hcodes, haccounts⟩

theorem find?_setIfSome_self {α : Type} {e : Dict String α} (h : e.find? name = none)
    (value : Option α) : (setIfSome e name value).find? name = value := by
  cases value with
  | none => exact h
  | some v => exact Dict.find?_insert_self e name v

theorem find?_setIfSome_of_ne {α : Type} {other : String} (e : Dict String α) (h : other ≠ name)
    (value : Option α) : (setIfSome e name value).find? other = e.find? other := by
  cases value with
  | none => rfl
  | some v => exact Dict.find?_insert_of_ne e h v

theorem Holds.register (h : d.Holds name none) (tables : TenantTables) :
    (d.register name tables).Holds name (some tables) where
  paymentTypes := Dict.find?_insert_self ..
  codes := find?_setIfSome_self h.codes tables.codes
  technicalAccounts := find?_setIfSome_self h.technicalAccounts tables.technicalAccounts

theorem Holds.register_of_ne {found : Option TenantTables} (h : d.Holds name found) {other : String}
    (hne : name ≠ other) (tables : TenantTables) : (d.register other tables).Holds name found where
  paymentTypes := (Dict.find?_insert_of_ne _ hne _).trans h.paymentTypes
  codes := (find?_setIfSome_of_ne _ hne _).trans h.codes
  technicalAccounts := (find?_setIfSome_of_ne _ hne _).trans h.technicalAccounts

/-- The tables of others are no tables of the tenant. -/
theorem Holds.foldl_of_not_mem {found : Option TenantTables} {es : List (String × TenantTables)}
    (h : d.Holds name found) (hname : name ∉ es.map Prod.fst) :
    (es.foldl (fun d t => d.register t.1 t.2) d).Holds name found := by
  induction es generalizing d with
  | nil => exact h
  | cons e es ih =>
    rw [List.map_cons, List.mem_cons, not_or] at hname
    exact ih (h.register_of_ne hname.1 e.2) hname.2

theorem Holds.foldl_of_mem {es : List (String × TenantTables)} (h : d.Holds name none)
    (hnodup : (es.map Prod.fst).Nodup) (hmem : (name, tables) ∈ es) :
    (es.foldl (fun d t => d.register t.1 t.2) d).Holds name (some tables) := by
  induction es generalizing d with
  | nil => cases hmem
  | cons e es ih =>
    rw [List.map_cons, List.nodup_cons] at hnodup
    rcases List.mem_cons.1 hmem with rfl | hmem
    · exact (h.register tables).foldl_of_not_mem hnodup.1
    · have hne : name ≠ e.1 := by
        rintro rfl
        exact hnodup.1 (List.mem_map.2 ⟨_, hmem, rfl⟩)
      exact ih (h.register_of_ne hne e.2) hnodup.2 hmem

/-- A directory holds the tables of a dictionary, whatever order they are registered in. -/
theorem holds_ofList {tenants : Dict String TenantTables} {order : List (String × TenantTables)}
    (horder : order.Perm tenants.toList) (name : String) :
    (ofList order).Holds name (tenants.find? name) := by
  have hempty : empty.Holds name none := ⟨rfl, rfl, rfl⟩
  have hnodup : (order.map Prod.fst).Nodup := (horder.map Prod.fst).nodup_iff.2 tenants.nodup_keys
  cases hfind : tenants.find? name with
  | some tables =>
    exact hempty.foldl_of_mem hnodup (horder.mem_iff.2 (tenants.find?_eq_some_iff.1 hfind))
  | none =>
    apply hempty.foldl_of_not_mem
    intro hmem
    obtain ⟨⟨_, tables⟩, hentry, rfl⟩ := List.mem_map.1 hmem
    rw [tenants.find?_eq_some_iff.2 (horder.mem_iff.1 hentry)] at hfind
    cases hfind

end TenantDirectory

/-- A tenant answers by these tables under this name: with their entries, and where they have none
with an error, or with no code. -/
structure Tenant.AnswersBy (t : Tenant) (name : String) (tables : TenantTables) : Prop where
  paymentType_iff : ∀ key id,
    t.paymentType key = .ok id ↔ tables.paymentTypes.find? key.text = some id
  paymentType_of_none : ∀ key, tables.paymentTypes.find? key.text = none →
    t.paymentType key = .error (.operationNotConfigured name key.text)
  code_iff : ∀ key code, t.code? key = some code ↔
    ∃ codes, tables.codes = some codes ∧ codes.find? key.text = some code
  technicalAccount_iff : ∀ scheme case id, t.technicalAccount scheme case = .ok id ↔
    ∃ accounts, tables.technicalAccounts = some accounts ∧
      accounts.find? (scheme ++ "." ++ case) = some id
  technicalAccount_of_none : ∀ scheme case,
    (∀ accounts, tables.technicalAccounts = some accounts →
      accounts.find? (scheme ++ "." ++ case) = none) →
    t.technicalAccount scheme case =
      .error (.technicalAccountNotConfigured name (scheme ++ "." ++ case))

theorem Tenant.answersBy (name : String) (tables : TenantTables) :
    Tenant.AnswersBy ⟨name, tables⟩ name tables where
  paymentType_iff key id := by
    rw [paymentType]
    cases tables.paymentTypes.find? key.text <;> simp
  paymentType_of_none key h := by rw [paymentType, h]
  code_iff key code := Option.bind_eq_some_iff
  technicalAccount_iff scheme case id := by
    rw [← Option.bind_eq_some_iff, technicalAccount, technicalKey]
    dsimp only
    split <;> simp [*]
  technicalAccount_of_none scheme case h := by
    have hnone := Option.bind_eq_none_iff.2 h
    rw [technicalAccount, technicalKey]
    dsimp only
    rw [hnone]

namespace Settings

theorem resolve_of_find? {s : Settings} {name : String} {tables : TenantTables}
    (h : s.tenants.find? name = some tables) : s.directory.resolve name = .ok ⟨name, tables⟩ := by
  have hholds := TenantDirectory.holds_ofList (.refl s.tenants.toList) name
  rw [h] at hholds
  exact hholds.resolve_eq_ok

/-- The directory of settings is the same in whatever order their tenants are registered. It
resolves exactly the tenants that the settings have tables for, and a tenant that it resolves
answers by its own tables. -/
theorem directory_answers (s : Settings) :
    (∀ order : List (String × TenantTables), order.Perm s.tenants.toList →
      TenantDirectory.ofList order = s.directory) ∧
    ∀ name,
      ((∃ t, s.directory.resolve name = .ok t) ↔ ∃ tables, s.tenants.find? name = some tables) ∧
      (s.tenants.find? name = none →
        s.directory.resolve name = .error (.tenantNotConfigured name)) ∧
      ∀ t, s.directory.resolve name = .ok t →
        ∃ tables, s.tenants.find? name = some tables ∧ t.AnswersBy name tables := by
  refine ⟨fun order horder => ?_, fun name => ?_⟩
  · exact TenantDirectory.eq_of_holds (TenantDirectory.holds_ofList horder)
      (TenantDirectory.holds_ofList (.refl s.tenants.toList))
  · cases hfind : s.tenants.find? name with
    | some tables =>
      have hresolve := resolve_of_find? hfind
      refine ⟨by simp [hresolve], nofun, fun t ht => ⟨tables, rfl, ?_⟩⟩
      obtain rfl := Except.ok.inj (hresolve.symm.trans ht)
      exact Tenant.answersBy name tables
    | none =>
      have hholds := TenantDirectory.holds_ofList (.refl s.tenants.toList) name
      rw [hfind] at hholds
      have hresolve : s.directory.resolve name = .error (.tenantNotConfigured name) :=
        hholds.resolve_eq_error
      exact ⟨by simp [hresolve], fun _ => hresolve, by simp [hresolve]⟩

end Settings

end PaymentBooking
