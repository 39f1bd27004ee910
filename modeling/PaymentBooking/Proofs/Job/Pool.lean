import PaymentBooking.Job.Pool
import PaymentBooking.Proofs.Job.Outcomes

/-! # Jobs at work together are as good as handled one after the other

Whichever task goes on at which time, at most one has the ledger to submit a batch, and then none
looks accounts up. So the copy that takes the place of a book has been made of that book. At any
time the ledger is what the jobs that are done leave when they are handled one after the other, and
these have come to what they come to then.
-/

namespace PaymentBooking

open Worker

variable {env : Environment} {l : Ledger} {job : Job} {p : Phase}

namespace Phase

/-! ## A task by itself -/

/-- What a job comes to, and what it leaves, when it alone goes on from a phase. -/
def goOn (env : Environment) (l : Ledger) (job : Job) :
    Phase → Ledger × Except Decimal.Operation Outcome
  | .waiting | .begun => handle env l job
  | .planned signal plan =>
    ((plan.submit env l job.vars).1, Outcome.ofResult signal (plan.submit env l job.vars).2)
  | .submitting signal plan copy index rest =>
    match (Submission.mk l copy).items index rest with
    | (s, none) => (s.commit (plan.batch env.settings).tenant,
        Outcome.ofResult signal (.ok (plan.output job.vars)))
    | (s, some failure) => (s.ledger, Outcome.ofResult signal (.error failure))
  | .asking tenant iban | .reading tenant iban =>
    (l, Outcome.ofResult Stage.accountLookup.failureSignal
      (((l.lookup tenant iban).map (AccountLookup.output job.vars)).mapError .error))
  | .done result => (l, result)

theorem goOn_prepare (env : Environment) (l : Ledger) (job : Job) :
    (prepare env job).goOn env l job = handle env l job := by
  cases hstage : Stage.ofJobType? job.type with
  | none =>
    rw [prepare, handle, hstage]
    rfl
  | some stage =>
    rw [handle_of_stage (Stage.ofJobType?_eq_some_iff.1 hstage), prepare, hstage]
    cases stage with
    | accountLookup =>
      rw [perform, AccountLookup.run, AccountLookup.find]
      cases AccountLookup.subject env.directory job.vars <;> rfl
    | booking stage =>
      cases hplan : stage.plan env job.vars with
      | error e =>
        rw [perform_of_plan_eq_error hplan]
        simp only [hplan]
        rfl
      | ok plan =>
        rw [perform_of_plan hplan]
        simp only [hplan]
        rfl

/-- A step brings a job nearer to what it comes to anyway. -/
theorem goOn_step (env : Environment) (l : Ledger) (job : Job) (p : Phase) :
    (p.step env l job).2.goOn env (p.step env l job).1 job = p.goOn env l job := by
  cases p with
  | waiting => rfl
  | begun => exact goOn_prepare env l job
  | planned signal plan =>
    rw [step, goOn, Plan.submit, Ledger.submit]
    cases l.book (plan.batch env.settings).tenant with
    | error e => rfl
    | ok b =>
      have hbegin : Submission.mk l (Submission.begin l b).copy = Submission.begin l b := rfl
      dsimp only [goOn]
      rw [hbegin]
      rcases (Submission.begin l b).items 0 (plan.batch env.settings).items with
        ⟨s, _ | failure⟩ <;> rfl
  | submitting signal plan copy index rest =>
    cases rest with
    | nil => rfl
    | cons i rest =>
      rw [step, goOn, Submission.items]
      rcases hitem : (Submission.mk l copy).item index i with ⟨s, _ | failure⟩ <;> rfl
  | asking tenant iban => rfl
  | reading tenant iban => rfl
  | done result => rfl

/-- Only a task that submits changes the ledger. -/
theorem ledger_step_of_not_isSubmitting (h : p.isSubmitting = false) :
    (p.step env l job).1 = l := by
  cases p with
  | submitting signal plan copy index rest => cases h
  | planned signal plan =>
    rw [step]
    split <;> rfl
  | _ => rfl

/-- Only the last step of a task changes the ledger. -/
theorem ledger_step_of_unfinished (h : (p.step env l job).2.result? = none) :
    (p.step env l job).1 = l := by
  cases p with
  | submitting signal plan copy index rest =>
    cases rest with
    | nil => cases h
    | cons i rest =>
      rw [step, Submission.item]
      cases (Submission.mk l copy).copy.step i <;> rfl
  | _ => exact ledger_step_of_not_isSubmitting rfl

/-! ### Which phase follows on which -/

theorem prepare_cases (env : Environment) (job : Job) :
    (∃ signal plan, prepare env job = .planned signal plan) ∨
      (∃ tenant iban, prepare env job = .asking tenant iban) ∨
      ∃ result, prepare env job = .done result := by
  rw [prepare]
  split
  · exact .inr (.inr ⟨_, rfl⟩)
  · split
    · exact .inr (.inl ⟨_, _, rfl⟩)
    · exact .inr (.inr ⟨_, rfl⟩)
  · split
    · exact .inl ⟨_, _, rfl⟩
    · exact .inr (.inr ⟨_, rfl⟩)

/-- What a task can come to in a step. -/
inductive Follows : Phase → Phase → Prop
  | begin : Follows .waiting .begun
  | plan (signal : String) (plan : Plan) : Follows .begun (.planned signal plan)
  | ask (tenant : String) (iban : Iban) : Follows .begun (.asking tenant iban)
  | submit (signal : String) (plan : Plan) (copy : Progress) (rest : List BatchItem) :
      Follows (.planned signal plan) (.submitting signal plan copy 0 rest)
  | post (signal : String) (plan : Plan) (copy copy' : Progress) (index : Nat) (i : BatchItem)
      (rest : List BatchItem) :
      Follows (.submitting signal plan copy index (i :: rest))
        (.submitting signal plan copy' (index + 1) rest)
  | read (tenant : String) (iban : Iban) : Follows (.asking tenant iban) (.reading tenant iban)
  | finish (p : Phase) (result : Except Decimal.Operation Outcome) : Follows p (.done result)

namespace Follows

variable {p' : Phase}

theorem hasPermit (h : p.Follows p') (hp : p'.hasPermit) : p.hasPermit ∨ p = .waiting := by
  cases h with
  | begin => exact .inr rfl
  | finish => cases hp
  | _ => exact .inl rfl

theorem isSubmitting (h : p.Follows p') (hp : p'.isSubmitting) :
    p.isSubmitting ∨ ∃ signal plan, p = .planned signal plan := by
  cases h with
  | submit signal plan => exact .inr ⟨signal, plan, rfl⟩
  | post => exact .inl rfl
  | _ => cases hp

theorem isReading (h : p.Follows p') (hp : p'.isReading) :
    ∃ tenant iban, p = .asking tenant iban := by
  cases h with
  | read tenant iban => exact ⟨tenant, iban, rfl⟩
  | _ => cases hp

end Follows

theorem follows_step (env : Environment) (l : Ledger) (job : Job) (p : Phase) :
    p.Follows (p.step env l job).2 := by
  cases p with
  | waiting => exact .begin
  | begun =>
    change Follows .begun (prepare env job)
    rcases prepare_cases env job with ⟨signal, plan, h⟩ | ⟨tenant, iban, h⟩ | ⟨result, h⟩ <;> rw [h]
    · exact .plan signal plan
    · exact .ask tenant iban
    · exact .finish _ result
  | planned signal plan =>
    rw [step]
    split
    · exact .submit ..
    · exact .finish ..
  | submitting signal plan copy index rest =>
    cases rest with
    | nil => exact .finish ..
    | cons i rest =>
      rw [step]
      split
      · exact .post ..
      · exact .finish ..
  | asking tenant iban => exact .read tenant iban
  | reading tenant iban => exact .finish ..
  | done result => exact .finish ..

/-! ### Phases that a job comes through -/

/-- The job comes to what it comes to when it is handled: on any ledger, or when it has the ledger
to itself, on that one. -/
def Faithful (env : Environment) (l : Ledger) (job : Job) : Phase → Prop
  | .submitting signal plan copy index rest =>
    (submitting signal plan copy index rest).goOn env l job = handle env l job
  | .done _ => True
  | p => ∀ l, p.goOn env l job = handle env l job

theorem Faithful.goOn_eq (h : p.Faithful env l job) (hp : p.result? = none) :
    p.goOn env l job = handle env l job := by
  cases p with
  | submitting signal plan copy index rest => exact h
  | done result => cases hp
  | _ => exact h l

theorem goOn_of_result {result : Except Decimal.Operation Outcome} (h : p.result? = some result) :
    p.goOn env l job = (l, result) := by
  cases p with
  | done found =>
    cases h
    rfl
  | _ => cases h

/-- What others do to the ledger concerns a task only if it submits. -/
theorem Faithful.of_not_isSubmitting {l' : Ledger} (h : p.Faithful env l job)
    (hp : p.isSubmitting = false) : p.Faithful env l' job := by
  cases p with
  | submitting signal plan copy index rest => cases hp
  | _ => exact h

theorem Faithful.step (h : p.Faithful env l job) :
    (p.step env l job).2.Faithful env (p.step env l job).1 job := by
  have hgoOn := goOn_step env l job p
  have hfollows := follows_step env l job p
  have hsame : (p.step env l job).2.result? = none → (p.step env l job).1 = l :=
    ledger_step_of_unfinished
  generalize hnext : p.step env l job = next at hgoOn hfollows hsame
  obtain ⟨l', p'⟩ := next
  cases hfollows with
  | begin => exact fun _ => rfl
  | plan signal plan =>
    have hprepare : prepare env job = .planned signal plan := congrArg Prod.snd hnext
    exact fun l => hprepare ▸ goOn_prepare env l job
  | ask tenant iban =>
    have hprepare : prepare env job = .asking tenant iban := congrArg Prod.snd hnext
    exact fun l => hprepare ▸ goOn_prepare env l job
  | submit signal plan copy rest =>
    obtain rfl : l' = l := hsame rfl
    exact hgoOn.trans (h l')
  | post signal plan copy copy' index i rest =>
    obtain rfl : l' = l := hsame rfl
    exact hgoOn.trans h
  | read tenant iban => exact h
  | finish p result => trivial

end Phase

namespace Pool

variable {workers i : ℕ} {s s' : Pool} {l₀ : Ledger} {jobs : List Job}

/-! ## Tasks together -/

/-- A task goes on if it can, and all others stay as they are. -/
theorem advance?_eq_some (h : s.advance? env workers i = some s') :
    ∃ before t after, s.tasks = before ++ t :: after ∧ before.length = i ∧
      s.admits workers t.phase ∧
      s' = ⟨(t.phase.step env s.ledger t.job).1,
        before ++ ⟨t.job, (t.phase.step env s.ledger t.job).2⟩ :: after⟩ := by
  obtain ⟨t, ht, h⟩ := Option.bind_eq_some_iff.1 h
  obtain ⟨hi, rfl⟩ := List.getElem?_eq_some_iff.1 ht
  have htasks : s.tasks = s.tasks.take i ++ s.tasks[i] :: s.tasks.drop (i + 1) := by
    simp
  have hlength : (s.tasks.take i).length = i := by simp; omega
  dsimp only at h
  split_ifs at h with hadmits
  cases h
  refine ⟨_, _, _, htasks, hlength, hadmits, ?_⟩
  rw [List.set_eq_take_append_cons_drop, if_pos hi]

theorem admits_waiting_iff :
    s.admits workers .waiting ↔ s.tasks.countP (·.phase.hasPermit) < workers := by
  simp [admits]

theorem admits_planned_iff {signal : String} {plan : Plan} :
    s.admits workers (.planned signal plan) ↔
      s.tasks.countP (·.phase.isSubmitting) = 0 ∧ s.tasks.countP (·.phase.isReading) = 0 := by
  simp [admits, List.countP_eq_zero, forall_and]

theorem admits_asking_iff {tenant : String} {iban : Iban} :
    s.admits workers (.asking tenant iban) ↔ s.tasks.countP (·.phase.isSubmitting) = 0 := by
  simp [admits, List.countP_eq_zero]

theorem result?_of_admits (h : s.admits workers p) : p.result? = none := by
  cases p with
  | done result => cases h
  | _ => rfl

/-- Tasks for jobs, no more of them at work than there are permits. The ledger is with one task that
submits, or with some that look up, or with none. It is as the jobs that are done leave it, and
nobody has made it unfit for what a task is about to do. -/
structure Valid (env : Environment) (workers : ℕ) (l₀ : Ledger) (jobs : List Job) (s : Pool) :
    Prop where
  jobs : s.tasks.map Task.job = jobs
  permits : s.tasks.countP (·.phase.hasPermit) ≤ workers
  writers : s.tasks.countP (·.phase.isSubmitting) ≤ 1
  readers : 0 < s.tasks.countP (·.phase.isSubmitting) → s.tasks.countP (·.phase.isReading) = 0
  faithful : ∀ t ∈ s.tasks, t.phase.Faithful env s.ledger t.job
  serial : ∃ order, handleAll env l₀ (order.map Prod.fst) = (s.ledger, order) ∧
    order.Perm s.results

theorem valid_start (env : Environment) (workers : ℕ) (l : Ledger) (jobs : List Job) :
    Valid env workers l jobs (start l jobs) where
  jobs := by simp [start, Function.comp_def]
  permits := by simp [start, List.countP_map, Function.comp_def, Phase.hasPermit]
  writers := by simp [start, List.countP_map, Function.comp_def, Phase.isSubmitting]
  readers := by simp [start, List.countP_map, Function.comp_def, Phase.isSubmitting]
  faithful := by
    intro t ht
    obtain ⟨job, -, rfl⟩ := List.mem_map.1 ht
    exact fun _ => rfl
  serial := ⟨[], rfl, by simp [start, results, Task.result?, Phase.result?]⟩

theorem countP_insert (q : Task → Bool) (before : List Task) (t : Task) (after : List Task) :
    (before ++ t :: after).countP q = (before ++ after).countP q + (q t).toNat := by
  rw [List.perm_middle.countP_eq, List.countP_cons]
  cases q t <;> rfl

theorem filterMap_insert_some {β : Type} {f : Task → Option β} {t : Task} {b : β} (h : f t = some b)
    (before after : List Task) :
    (before ++ t :: after).filterMap f = before.filterMap f ++ b :: after.filterMap f := by
  rw [List.filterMap_append, List.filterMap_cons_some h]

theorem filterMap_insert_none {β : Type} {f : Task → Option β} {t : Task} (h : f t = none)
    (before after : List Task) :
    (before ++ t :: after).filterMap f = before.filterMap f ++ after.filterMap f := by
  rw [List.filterMap_append, List.filterMap_cons_none h]

namespace Valid

variable {before after : List Task} {t t' : Task}

theorem not_isSubmitting (h : Valid env workers l₀ jobs s) (htasks : s.tasks = before ++ t :: after)
    (ht : t.phase.isSubmitting) : ∀ u ∈ before ++ after, u.phase.isSubmitting = false := by
  have hone := h.writers
  rw [htasks, countP_insert, ht, Bool.toNat_true] at hone
  have hnone : (before ++ after).countP (·.phase.isSubmitting) = 0 := by omega
  intro u hu
  simpa using List.countP_eq_zero.1 hnone u hu

/-- A task takes no permit but one that is left. -/
theorem permits_step (h : Valid env workers l₀ jobs s) (htasks : s.tasks = before ++ t :: after)
    (hadmits : s.admits workers t.phase) (hfollows : t.phase.Follows t'.phase) :
    (before ++ t' :: after).countP (·.phase.hasPermit) ≤ workers := by
  have hpermits := h.permits
  rw [htasks, countP_insert] at hpermits
  rw [countP_insert]
  cases hpermit : t'.phase.hasPermit with
  | false =>
    rw [Bool.toNat_false]
    omega
  | true =>
    rcases hfollows.hasPermit hpermit with hheld | hwaiting
    · rwa [hheld] at hpermits
    · rw [hwaiting, admits_waiting_iff, htasks, countP_insert] at hadmits
      rw [Bool.toNat_true]
      omega

/-- A task begins to submit only if nobody else has the ledger, and to look up only if nobody
submits. -/
theorem locks_step (h : Valid env workers l₀ jobs s) (htasks : s.tasks = before ++ t :: after)
    (t' : Task) (hadmits : s.admits workers t.phase) (hfollows : t.phase.Follows t'.phase) :
    (before ++ t' :: after).countP (·.phase.isSubmitting) ≤ 1 ∧
      (0 < (before ++ t' :: after).countP (·.phase.isSubmitting) →
        (before ++ t' :: after).countP (·.phase.isReading) = 0) := by
  have hwriters := h.writers
  have hreaders := h.readers
  rw [htasks, countP_insert] at hwriters
  rw [htasks, countP_insert, countP_insert] at hreaders
  rw [countP_insert, countP_insert]
  cases hsubmits : t'.phase.isSubmitting with
  | true =>
    have hreads : t'.phase.isReading = false := by
      cases hphase : t'.phase with
      | reading tenant iban =>
        rw [hphase] at hsubmits
        cases hsubmits
      | _ => rfl
    rw [hreads, Bool.toNat_true, Bool.toNat_false]
    rcases hfollows.isSubmitting hsubmits with hheld | ⟨signal, plan, hplanned⟩
    · rw [hheld, Bool.toNat_true] at hwriters hreaders
      have hnone := hreaders (by omega)
      omega
    · rw [hplanned, admits_planned_iff, htasks, countP_insert, countP_insert] at hadmits
      omega
  | false =>
    rw [Bool.toNat_false]
    cases hreads : t'.phase.isReading with
    | true =>
      obtain ⟨tenant, iban, hasking⟩ := hfollows.isReading hreads
      rw [hasking, admits_asking_iff, htasks, countP_insert] at hadmits
      omega
    | false =>
      rw [Bool.toNat_false]
      omega

/-- What a task does to the ledger makes no difference to the others. -/
theorem faithful_step (h : Valid env workers l₀ jobs s) (htasks : s.tasks = before ++ t :: after) :
    ∀ u ∈ before ++ after,
      u.phase.Faithful env (t.phase.step env s.ledger t.job).1 u.job := by
  intro u hu
  have hfaithful : u.phase.Faithful env s.ledger u.job := by
    apply h.faithful
    rw [htasks]
    exact List.perm_middle.mem_iff.2 (List.mem_cons_of_mem t hu)
  cases hsubmits : t.phase.isSubmitting with
  | true => exact hfaithful.of_not_isSubmitting (h.not_isSubmitting htasks hsubmits u hu)
  | false => rwa [Phase.ledger_step_of_not_isSubmitting hsubmits]

/-- A task that gets done has come to what handling its job next comes to. -/
theorem serial_step (h : Valid env workers l₀ jobs s) (htasks : s.tasks = before ++ t :: after)
    (hadmits : s.admits workers t.phase) :
    ∃ order, handleAll env l₀ (order.map Prod.fst) =
        ((t.phase.step env s.ledger t.job).1, order) ∧
      order.Perm (results ⟨(t.phase.step env s.ledger t.job).1,
        before ++ ⟨t.job, (t.phase.step env s.ledger t.job).2⟩ :: after⟩) := by
  obtain ⟨order, hhandled, horder⟩ := h.serial
  have hunfinished := result?_of_admits hadmits
  rw [results, htasks, filterMap_insert_none (by rw [Task.result?, hunfinished]; rfl)] at horder
  cases hresult : (t.phase.step env s.ledger t.job).2.result? with
  | none =>
    refine ⟨order, ?_, ?_⟩
    · rw [hhandled, Phase.ledger_step_of_unfinished hresult]
    · rwa [results, filterMap_insert_none (by rw [Task.result?, hresult]; rfl)]
  | some result =>
    have hmem : t ∈ s.tasks := htasks ▸ List.mem_append_right _ List.mem_cons_self
    have hhandle : handle env s.ledger t.job = ((t.phase.step env s.ledger t.job).1, result) := by
      rw [← (h.faithful t hmem).goOn_eq hunfinished, ← Phase.goOn_step]
      exact Phase.goOn_of_result hresult
    refine ⟨order ++ [(t.job, result)], ?_, ?_⟩
    · rw [List.map_append, handleAll_append, hhandled]
      simp [handleAll, hhandle]
    · have hdone : Task.result? ⟨t.job, (t.phase.step env s.ledger t.job).2⟩ =
          some (t.job, result) := by
        rw [Task.result?, hresult]
        rfl
      rw [results, filterMap_insert_some hdone]
      exact (List.perm_append_singleton _ _).trans ((horder.cons _).trans List.perm_middle.symm)

theorem advance (h : Valid env workers l₀ jobs s) (hadvance : s.advance? env workers i = some s') :
    Valid env workers l₀ jobs s' := by
  obtain ⟨before, t, after, htasks, -, hadmits, rfl⟩ := advance?_eq_some hadvance
  have hfollows := Phase.follows_step env s.ledger t.job t.phase
  obtain ⟨hwriters, hreaders⟩ := h.locks_step htasks ⟨t.job, _⟩ hadmits hfollows
  refine ⟨?_, h.permits_step htasks hadmits hfollows, hwriters, hreaders, ?_,
    h.serial_step htasks hadmits⟩
  · rw [← h.jobs, htasks]
    simp
  · intro u hu
    rcases List.mem_cons.1 (List.perm_middle.mem_iff.1 hu) with rfl | hu
    · exact (h.faithful t (htasks ▸ List.mem_append_right _ List.mem_cons_self)).step
    · exact h.faithful_step htasks u hu

end Valid

end Pool

end PaymentBooking
