import PaymentBooking.Proofs.Ledger.Step

/-! # Histories of a ledger

A ledger is changed by opening accounts, registering IBANs and submitting batches, in any order. A
batch that is refused or that leaves the range of decimals changes nothing. What every single change
does to the book of one tenant is done by a whole history, by induction over its commands.
-/

namespace PaymentBooking

/-- A change that can be asked of a ledger. -/
inductive Command where
  | openAccount (tenant : String) (account : Int64) (balance : Decimal)
  | registerIban (tenant : String) (iban : Iban) (record : AccountRecord)
  | submit (tenant : String) (items : List BatchItem)

/-- Whether a command opens an account of a tenant, or opens it again. -/
def Command.Opens (tenant : String) (account : Int64) (c : Command) : Prop :=
  ∃ balance, c = .openAccount tenant account balance

namespace Ledger

/-- The ledger that a command leaves. -/
def exec (l : Ledger) : Command → Ledger
  | .openAccount tenant account balance => l.openAccount tenant account balance
  | .registerIban tenant iban record => l.registerIban tenant iban record
  | .submit tenant items => (l.submit tenant items).1

/-- The ledger after commands in their order. -/
def execAll (l : Ledger) (commands : List Command) : Ledger := commands.foldl exec l

def after (history : List Command) : Ledger := empty.execAll history

def balance? (l : Ledger) (tenant : String) (account : Int64) : Option Decimal :=
  (l.bookOf tenant).balances.find? account

theorem execAll_append (l : Ledger) (cs ds : List Command) :
    l.execAll (cs ++ ds) = (l.execAll cs).execAll ds := List.foldl_append ..

theorem after_append (cs ds : List Command) : after (cs ++ ds) = (after cs).execAll ds :=
  execAll_append ..

/-- A batch is either accepted, with its outcome, or leaves the ledger as it was. -/
theorem exec_submit_cases (l : Ledger) (tenant : String) (items : List BatchItem) :
    l.exec (.submit tenant items) = l ∨
      ∃ receipt, l.submit tenant items = (l.exec (.submit tenant items), .ok receipt) := by
  rcases submit_cases l tenant items with ⟨b, p, -, -, hsubmit⟩ | ⟨failure, hsubmit, -⟩
  · exact .inr ⟨p.receipt, by rw [exec, hsubmit]⟩
  · exact .inl (by rw [exec, hsubmit])

/-! ## Books -/

theorem bookOf_of_find? {l : Ledger} {tenant : String} {b : Book}
    (h : l.books.find? tenant = some b) : l.bookOf tenant = b := by
  rw [bookOf, h, Option.getD_some]

@[simp] theorem bookOf_setBook_self (l : Ledger) (tenant : String) (b : Book) :
    (l.setBook tenant b).bookOf tenant = b := bookOf_of_find? (Dict.find?_insert_self ..)

theorem bookOf_setBook_of_ne (l : Ledger) {tenant other : String} (h : other ≠ tenant) (b : Book) :
    (l.setBook tenant b).bookOf other = l.bookOf other := by
  rw [bookOf, bookOf, setBook, Dict.find?_insert_of_ne _ h]

/-! ## What a history does to one book -/

/-- A condition on every item that the batches of a history come to, met by the batch as it is by
then. Items behind one that is refused do not count. -/
def Throughout (Q : Progress → BatchItem → Prop) (l : Ledger) : List Command → Prop
  | [] => True
  | .submit tenant items :: cs =>
    (∀ b, l.books.find? tenant = some b → Progress.Throughout Q ⟨b, l.next, []⟩ items) ∧
      (l.exec (.submit tenant items)).Throughout Q cs
  | c :: cs => (l.exec c).Throughout Q cs

instance decidableThroughout {Q : Progress → BatchItem → Prop} [∀ p i, Decidable (Q p i)] :
    (l : Ledger) → (cs : List Command) → Decidable (l.Throughout Q cs)
  | _, [] => .isTrue trivial
  | l, .openAccount tenant account balance :: cs =>
    decidableThroughout (l.exec (.openAccount tenant account balance)) cs
  | l, .registerIban tenant iban record :: cs =>
    decidableThroughout (l.exec (.registerIban tenant iban record)) cs
  | l, .submit tenant items :: cs =>
    have : Decidable
        (∀ b, l.books.find? tenant = some b → Progress.Throughout Q ⟨b, l.next, []⟩ items) :=
      match h : l.books.find? tenant with
      | some b =>
        decidable_of_iff (Progress.Throughout Q ⟨b, l.next, []⟩ items)
          ⟨fun hb c hc => Option.some.inj hc ▸ hb, fun hall => hall b rfl⟩
      | none => .isTrue fun _ hc => by cases hc
    have := decidableThroughout (Q := Q) (l.exec (.submit tenant items)) cs
    inferInstanceAs (Decidable (_ ∧ _))

theorem throughout_of_forall {Q : Progress → BatchItem → Prop} (hQ : ∀ p i, Q p i) (l : Ledger)
    (cs : List Command) : l.Throughout Q cs := by
  induction cs generalizing l with
  | nil => trivial
  | cons c cs ih =>
    cases c with
    | openAccount tenant account balance => exact ih _
    | registerIban tenant iban record => exact ih _
    | submit tenant items => exact ⟨fun b _ => Progress.throughout_of_forall hQ _ _, ih _⟩

theorem throughout_append {Q : Progress → BatchItem → Prop} {l : Ledger} {cs ds : List Command}
    (h : l.Throughout Q (cs ++ ds)) : (l.execAll cs).Throughout Q ds := by
  induction cs generalizing l with
  | nil => exact h
  | cons c cs ih =>
    cases c with
    | openAccount tenant account balance => exact ih h
    | registerIban tenant iban record => exact ih h
    | submit tenant items => exact ih h.2

/-- A relation between books that passes from change to change: one that holds for every item that
is posted, for the opening of any other account and for the registration of an IBAN. -/
structure Carried (Q : Progress → BatchItem → Prop) (account : Int64) (R : Book → Book → Prop) :
    Prop where
  refl (b : Book) : R b b
  trans (a b c : Book) : R a b → R b c → R a c
  step (p : Progress) (i : BatchItem) (q : Progress) :
    Q p i → p.step i = .ok q → R p.book q.book
  openOther (b : Book) (other : Int64) (balance : Decimal) : other ≠ account →
    R b { b with balances := b.balances.insert other balance }
  register (b : Book) (ibans : Dict String AccountRecord) : R b { b with ibans }

variable {Q : Progress → BatchItem → Prop} {tenant : String} {account : Int64}
  {R : Book → Book → Prop}

theorem Carried.exec (hR : Carried Q account R) {l : Ledger} {c : Command}
    (hopen : ¬c.Opens tenant account) (hQ : l.Throughout Q [c]) :
    R (l.bookOf tenant) ((l.exec c).bookOf tenant) := by
  cases c with
  | openAccount other number balance =>
    simp only [Ledger.exec, openAccount]
    by_cases ht : tenant = other
    · subst ht
      rw [bookOf_setBook_self]
      refine hR.openOther _ _ _ fun hn => hopen ⟨balance, ?_⟩
      rw [hn]
    · rw [bookOf_setBook_of_ne _ ht]
      exact hR.refl _
  | registerIban other iban record =>
    simp only [Ledger.exec, registerIban]
    by_cases ht : tenant = other
    · subst ht
      rw [bookOf_setBook_self]
      exact hR.register _ _
    · rw [bookOf_setBook_of_ne _ ht]
      exact hR.refl _
  | submit other items =>
    rcases exec_submit_cases l other items with hsame | ⟨receipt, hok⟩
    · rw [hsame]
      exact hR.refl _
    · obtain ⟨b, p, hb, hrun, hl, -⟩ := submit_eq_ok hok
      rw [hl]
      by_cases ht : tenant = other
      · subst ht
        rw [bookOf_of_find? hb, bookOf_of_find? (Dict.find?_insert_self ..)]
        exact Progress.run_induction (R := fun p q => R p.book q.book) (fun p => hR.refl _)
          (fun p q r => hR.trans _ _ _) hR.step (hQ.1 b hb) hrun
      · rw [bookOf, bookOf, Dict.find?_insert_of_ne _ ht]
        exact hR.refl _

theorem Carried.execAll (hR : Carried Q account R) {l : Ledger} {cs : List Command}
    (hopen : ∀ c ∈ cs, ¬c.Opens tenant account) (hQ : l.Throughout Q cs) :
    R (l.bookOf tenant) ((l.execAll cs).bookOf tenant) := by
  induction cs generalizing l with
  | nil => exact hR.refl _
  | cons c cs ih =>
    have hhead : l.Throughout Q [c] := by
      cases c with
      | submit other items => exact ⟨hQ.1, trivial⟩
      | _ => trivial
    have hrest : (l.execAll [c]).Throughout Q cs := throughout_append hQ
    exact hR.trans _ _ _ (hR.exec (hopen c List.mem_cons_self) hhead)
      (ih (fun d hd => hopen d (List.mem_cons_of_mem c hd)) hrest)

/-! ## The last opening of an account -/

/-- An account that is not open is not opened by anything but its opening. -/
theorem carried_notOpen (account : Int64) :
    Carried (fun _ _ => True) account fun b b' =>
      b.balances.find? account = none → b'.balances.find? account = none where
  refl _ h := h
  trans _ _ _ hab hbc h := hbc (hab h)
  step p i q _ hstep h := by
    obtain ⟨e, -, hadv⟩ := Progress.step_eq_ok hstep
    rcases hadv.find?_balances account with hsame | ⟨_, _, _, x, _, -, hopen, -⟩
    · rw [hsame, h]
    · rw [h] at hopen
      cases hopen
  openOther b other balance hne h := by rw [Dict.find?_insert_of_ne _ (Ne.symm hne), h]
  register _ _ h := h

private theorem exists_last {P : Command → Prop} {cs : List Command} (h : ∃ c ∈ cs, P c) :
    ∃ before c rest, cs = before ++ c :: rest ∧ P c ∧ ∀ d ∈ rest, ¬P d := by
  induction cs with
  | nil => simp at h
  | cons c cs ih =>
    by_cases hrest : ∃ d ∈ cs, P d
    · obtain ⟨before, d, rest, rfl, hd⟩ := ih hrest
      exact ⟨c :: before, d, rest, rfl, hd⟩
    · obtain ⟨d, hd, hP⟩ := h
      rcases List.mem_cons.1 hd with rfl | hd
      · exact ⟨[], d, cs, rfl, hP, fun e he hPe => hrest ⟨e, he, hPe⟩⟩
      · exact absurd ⟨d, hd, hP⟩ hrest

/-- An account with a balance has been opened, and some time for the last time. -/
private theorem exists_lastOpening {history : List Command} {balance : Decimal}
    (h : (after history).balance? tenant account = some balance) :
    ∃ before opening rest, history = before ++ .openAccount tenant account opening :: rest ∧
      ∀ c ∈ rest, ¬c.Opens tenant account := by
  have hopened : ∃ c ∈ history, c.Opens tenant account := by
    by_contra hnone
    have hcarried : (after history).balance? tenant account = none :=
      (carried_notOpen account).execAll (fun c hc hopens => hnone ⟨c, hc, hopens⟩)
        (throughout_of_forall (fun _ _ => trivial) empty history) rfl
    rw [hcarried] at h
    cases h
  obtain ⟨before, c, rest, hsplit, ⟨opening, rfl⟩, hlast⟩ := exists_last hopened
  exact ⟨before, opening, rest, hsplit, hlast⟩

/-- What passes from change to change holds between the book right after the last opening of an
account, with the balance it was opened with, and the book at the end. -/
theorem Carried.since_lastOpening (hR : Carried Q account R) {history : List Command}
    {balance : Decimal} (hQ : empty.Throughout Q history)
    (h : (after history).balance? tenant account = some balance) :
    ∃ before opening rest, history = before ++ .openAccount tenant account opening :: rest ∧
      (∀ c ∈ rest, ¬c.Opens tenant account) ∧
      ((after (before ++ [.openAccount tenant account opening])).bookOf tenant).balances.find?
        account = some opening ∧
      R ((after (before ++ [.openAccount tenant account opening])).bookOf tenant)
        ((after history).bookOf tenant) := by
  obtain ⟨before, opening, rest, hsplit, hlast⟩ := exists_lastOpening h
  have hafter : after history =
      (after (before ++ [.openAccount tenant account opening])).execAll rest := by
    rw [hsplit, List.append_cons, after_append]
  refine ⟨before, opening, rest, hsplit, hlast, ?_, ?_⟩
  · simp [after_append, Ledger.execAll, Ledger.exec, openAccount]
  · rw [hsplit, List.append_cons] at hQ
    rw [hafter]
    exact hR.execAll hlast (throughout_append hQ)

end Ledger

end PaymentBooking
