import PaymentBooking.Proofs.Ledger.History

/-! # The records behind IBANs

The ledger knows the tenants for which an account was opened or an IBAN registered. Behind an IBAN
of such a tenant it has the record that was registered last; nothing else that happens to the
ledger, and no batch, accepted or not, adds a record or loses one.
-/

namespace PaymentBooking

namespace Command

/-- The record that a command registers for an IBAN of a tenant, if it is such a command. -/
def record? (tenant : String) (iban : Iban) : Command → Option AccountRecord
  | .registerIban other number record =>
    if other = tenant ∧ number = iban then some record else none
  | _ => none

/-- Whether a command makes a tenant known to the ledger. -/
def introduces (tenant : String) : Command → Bool
  | .openAccount other _ _ => other = tenant
  | .registerIban other _ _ => other = tenant
  | .submit _ _ => false

end Command

theorem Progress.ibans_of_run {index : Nat} {p p' : Progress} {items : List BatchItem}
    (h : run index p items = .ok p') : p'.book.ibans = p.book.ibans := by
  refine run_induction (Q := fun _ _ => True) (R := fun p q => q.book.ibans = p.book.ibans)
    (fun _ => rfl) (fun _ _ _ hpq hqr => hqr.trans hpq) ?_
    (throughout_of_forall (fun _ _ => trivial) p items) h
  intro p i q _ hstep
  obtain ⟨e, -, hadv⟩ := step_eq_ok hstep
  cases hadv <;> rfl

namespace Ledger

variable {tenant : String} {iban : Iban}

def record? (l : Ledger) (tenant : String) (iban : Iban) : Option AccountRecord :=
  (l.bookOf tenant).ibans.find? iban.text

/-- The record that was registered last for an IBAN of a tenant, if one was. -/
def lastRecord? (tenant : String) (iban : Iban) (history : List Command) :
    Option AccountRecord :=
  (history.filterMap (Command.record? tenant iban)).getLast?

/-! ## One command -/

/-- A command that registers the IBAN of the tenant sets its record; every other one leaves it. -/
theorem record?_exec (l : Ledger) (c : Command) :
    (l.exec c).record? tenant iban = (c.record? tenant iban).or (l.record? tenant iban) := by
  cases c with
  | openAccount other account balance =>
    simp only [exec, record?, openAccount, Command.record?, Option.none_or]
    by_cases ht : tenant = other
    · subst ht
      rw [bookOf_setBook_self]
    · rw [bookOf_setBook_of_ne _ ht]
  | registerIban other number record =>
    simp only [exec, record?, registerIban, Command.record?]
    by_cases ht : tenant = other
    · subst ht
      rw [bookOf_setBook_self]
      by_cases hi : iban = number
      · subst hi
        simp
      · have htext : iban.text ≠ number.text := fun h => hi (congrArg Iban.mk h)
        rw [Dict.find?_insert_of_ne _ htext, if_neg fun h => hi h.2.symm, Option.none_or]
    · rw [bookOf_setBook_of_ne _ ht, if_neg fun h => ht h.1.symm, Option.none_or]
  | submit other items =>
    simp only [record?, Command.record?, Option.none_or]
    rcases exec_submit_cases l other items with hsame | ⟨receipt, hok⟩
    · rw [hsame]
    · obtain ⟨b, p, hb, hrun, hl, -⟩ := submit_eq_ok hok
      rw [hl]
      by_cases ht : tenant = other
      · subst ht
        rw [bookOf_of_find? hb, bookOf_of_find? (Dict.find?_insert_self ..),
          Progress.ibans_of_run hrun]
      · rw [bookOf, bookOf, Dict.find?_insert_of_ne _ ht]

/-- A tenant that is known stays known, and no batch makes one known. -/
theorem isSome_find?_exec (l : Ledger) (c : Command) :
    ((l.exec c).books.find? tenant).isSome =
      (c.introduces tenant || (l.books.find? tenant).isSome) := by
  cases c with
  | openAccount other account balance =>
    simp only [exec, openAccount, setBook, Dict.find?_insert, Command.introduces]
    by_cases ht : tenant = other
    · simp [ht]
    · simp [ht, Ne.symm ht]
  | registerIban other number record =>
    simp only [exec, registerIban, setBook, Dict.find?_insert, Command.introduces]
    by_cases ht : tenant = other
    · simp [ht]
    · simp [ht, Ne.symm ht]
  | submit other items =>
    simp only [Command.introduces, Bool.false_or]
    rcases exec_submit_cases l other items with hsame | ⟨receipt, hok⟩
    · rw [hsame]
    · obtain ⟨b, p, hb, hrun, hl, -⟩ := submit_eq_ok hok
      rw [hl]
      by_cases ht : tenant = other
      · subst ht
        rw [Dict.find?_insert_self, hb]
        rfl
      · rw [Dict.find?_insert_of_ne _ ht]

/-! ## Histories -/

theorem record?_execAll (l : Ledger) (cs : List Command) :
    (l.execAll cs).record? tenant iban =
      (lastRecord? tenant iban cs).or (l.record? tenant iban) := by
  induction cs generalizing l with
  | nil => rfl
  | cons c cs ih =>
    rw [execAll, List.foldl_cons]
    refine (ih (l.exec c)).trans ?_
    rw [record?_exec, lastRecord?, lastRecord?, List.filterMap_cons]
    cases c.record? tenant iban with
    | none => rfl
    | some record =>
      rw [List.getLast?_cons]
      cases (cs.filterMap (Command.record? tenant iban)).getLast? <;> rfl

theorem isSome_find?_execAll (l : Ledger) (cs : List Command) :
    ((l.execAll cs).books.find? tenant).isSome =
      (cs.any (Command.introduces tenant) || (l.books.find? tenant).isSome) := by
  induction cs generalizing l with
  | nil => rfl
  | cons c cs ih =>
    rw [execAll, List.foldl_cons]
    refine (ih (l.exec c)).trans ?_
    rw [isSome_find?_exec, List.any_cons]
    cases c.introduces tenant <;> simp

/-- After a history the ledger answers with the last record of exactly that tenant and IBAN, and
fails only for a tenant that nothing has introduced. -/
theorem lookup_after (history : List Command) (tenant : String) (iban : Iban) :
    (after history).lookup tenant iban =
      if history.any (Command.introduces tenant) then .ok (lastRecord? tenant iban history)
      else .error (.ledger (.unknownTenant tenant)) := by
  have hrecord : (after history).record? tenant iban = lastRecord? tenant iban history :=
    (record?_execAll empty history).trans (Option.or_none ..)
  have hknown : ((after history).books.find? tenant).isSome =
      history.any (Command.introduces tenant) :=
    (isSome_find?_execAll empty history).trans (Bool.or_false _)
  rw [← hrecord, ← hknown, lookup, book, record?, bookOf]
  cases (after history).books.find? tenant <;> rfl

end Ledger

end PaymentBooking
