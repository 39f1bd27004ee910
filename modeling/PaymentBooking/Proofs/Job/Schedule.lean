import PaymentBooking.Proofs.Job.Pool

/-! # Every run of a pool ends

As long as a job is not done some task can go on, and every step brings a pool nearer to its end. So
all jobs get done, on whichever schedule, and their results stand in the order of the jobs. The
schedules are all that can happen: whichever way a pool can come to its end is that of a schedule.
Every order of the jobs is one in which they can be handled.
-/

namespace PaymentBooking

open Worker

variable {env : Environment}

/-! ## Steps that are left -/

namespace Phase

variable {p : Phase}

theorem free_of_idle (h : p.hasPermit = false) : p.isSubmitting = false ∧ p.isReading = false := by
  cases p with
  | submitting | reading => cases h
  | _ => exact ⟨rfl, rfl⟩

end Phase

namespace Task

/-- The job of a task that has not begun. -/
def waiting? (t : Task) : Option Job :=
  match t.phase with
  | .waiting => some t.job
  | _ => none

theorem stepsLeft_eq_zero_iff {t : Task} : t.stepsLeft env = 0 ↔ t.phase.result?.isSome := by
  obtain ⟨job, phase⟩ := t
  cases phase <;> simp [stepsLeft, Phase.stepsLeft, Phase.result?]

theorem stepsLeft_step (env : Environment) (l : Ledger) {t : Task} (h : t.phase.result? = none) :
    stepsLeft env ⟨t.job, (t.phase.step env l t.job).2⟩ < t.stepsLeft env := by
  obtain ⟨job, phase⟩ := t
  cases phase with
  | waiting => exact Nat.lt_succ_self _
  | begun =>
    change stepsLeft env ⟨job, Phase.prepare env job⟩ < (Phase.prepare env job).stepsLeft env + 1
    rcases Phase.prepare_cases env job with ⟨signal, plan, h⟩ | ⟨tenant, iban, h⟩ | ⟨result, h⟩ <;>
      rw [h] <;> exact Nat.lt_succ_self _
  | planned signal plan =>
    dsimp only [Phase.step]
    split <;> simp [stepsLeft, Phase.stepsLeft]
  | submitting signal plan copy index rest =>
    cases rest with
    | nil => exact Nat.lt_succ_self _
    | cons item rest =>
      dsimp only [Phase.step]
      split <;> simp [stepsLeft, Phase.stepsLeft]
  | asking tenant iban => exact Nat.lt_succ_self _
  | reading tenant iban => exact Nat.lt_succ_self _
  | done result => cases h

end Task

namespace Pool

variable {workers i : ℕ} {s s' : Pool} {l : Ledger} {jobs : List Job} {schedule : ℕ → ℕ}

/-- What a pool can come to, one step of a task after the other. -/
def Reaches (env : Environment) (workers : ℕ) : Pool → Pool → Prop :=
  Relation.ReflTransGen fun s s' => ∃ i, s.advance? env workers i = some s'

def Done (s : Pool) : Prop := ∀ t ∈ s.tasks, t.phase.result?.isSome

theorem Valid.reaches {l₀ : Ledger} (h : Valid env workers l₀ jobs s)
    (hreaches : Reaches env workers s s') : Valid env workers l₀ jobs s' := by
  induction hreaches with
  | refl => exact h
  | tail _ hstep ih =>
    obtain ⟨i, hi⟩ := hstep
    exact ih.advance hi

/-! ## Some task can go on -/

theorem countP_eq_zero_of {tasks : List Task} {f : Phase → Bool}
    (h : ∀ t ∈ tasks, f t.phase = false) : tasks.countP (fun t => f t.phase) = 0 :=
  List.countP_eq_zero.2 fun t ht => by simp [h t ht]

/-- While a job is not done, some task can go on: one that has the ledger, or one that waits for it
while nobody has it, or one that waits for a permit while nobody is at work. -/
theorem exists_admits (hworkers : 0 < workers) (h : ¬s.Done) :
    ∃ t ∈ s.tasks, s.admits workers t.phase := by
  by_contra! hstuck
  have hfree : ∀ t ∈ s.tasks, t.phase.isSubmitting = false ∧ t.phase.isReading = false := by
    intro t ht
    cases hphase : t.phase with
    | submitting | reading => exact absurd (by rw [hphase]; rfl) (hstuck t ht)
    | _ => exact ⟨rfl, rfl⟩
  have hwriters := countP_eq_zero_of fun t ht => (hfree t ht).1
  have hreaders := countP_eq_zero_of fun t ht => (hfree t ht).2
  have hidle : ∀ t ∈ s.tasks, t.phase.hasPermit = false := by
    intro t ht
    cases hphase : t.phase with
    | waiting | done => rfl
    | planned => exact absurd (hphase ▸ admits_planned_iff.2 ⟨hwriters, hreaders⟩) (hstuck t ht)
    | asking => exact absurd (hphase ▸ admits_asking_iff.2 hwriters) (hstuck t ht)
    | begun | submitting | reading => exact absurd (by rw [hphase]; rfl) (hstuck t ht)
  have hpermits := countP_eq_zero_of hidle
  apply h
  intro t ht
  have hpermit := hidle t ht
  cases hphase : t.phase with
  | done => rfl
  | waiting => exact absurd (hphase ▸ admits_waiting_iff.2 (hpermits ▸ hworkers)) (hstuck t ht)
  | _ => rw [hphase] at hpermit; cases hpermit

theorem exists_advance (env : Environment) (hworkers : 0 < workers) (h : ¬s.Done) :
    ∃ i s', s.advance? env workers i = some s' := by
  obtain ⟨t, ht, hadmits⟩ := exists_admits hworkers h
  obtain ⟨i, hi⟩ := List.mem_iff_getElem?.1 ht
  have hadvance : (s.advance? env workers i).isSome := by simp [advance?, hi, hadmits]
  exact ⟨i, Option.isSome_iff_exists.1 hadvance⟩

theorem advance?_of_done (h : s.Done) : s.advance? env workers i = none := by
  by_contra hadvance
  obtain ⟨s', hs'⟩ := Option.ne_none_iff_exists'.1 hadvance
  obtain ⟨before, t, after, htasks, -, hadmits, -⟩ := advance?_eq_some hs'
  have ht := h t (htasks ▸ List.mem_append_right _ List.mem_cons_self)
  rw [result?_of_admits hadmits] at ht
  cases ht

/-! ## Turns -/

theorem turn_of_advance (h : s.advance? env workers i = some s') : s.turn env workers i = s' := by
  rw [turn, List.findSome?_cons, h]
  rfl

/-- A turn is a step of some task if any can go on. -/
theorem turn_cases (env : Environment) (workers : ℕ) (s : Pool) (i : ℕ) :
    (∃ j, s.advance? env workers j = some (s.turn env workers i)) ∨
      (∀ j, s.advance? env workers j = none) ∧ s.turn env workers i = s := by
  rw [turn]
  cases hfound : (i :: List.range s.tasks.length).findSome? (s.advance? env workers) with
  | some s' =>
    obtain ⟨j, -, hj⟩ := List.exists_of_findSome?_eq_some hfound
    exact .inl ⟨j, hj⟩
  | none =>
    refine .inr ⟨fun j => ?_, rfl⟩
    rw [List.findSome?_eq_none_iff] at hfound
    by_cases hj : j < s.tasks.length
    · exact hfound j (List.mem_cons_of_mem _ (List.mem_range.2 hj))
    · rw [advance?, List.getElem?_eq_none (by omega)]
      rfl

theorem turn_of_done (h : s.Done) : s.turn env workers i = s := by
  rcases turn_cases env workers s i with ⟨j, hj⟩ | ⟨-, hsame⟩
  · rw [advance?_of_done h] at hj
    cases hj
  · exact hsame

theorem reaches_run (env : Environment) (workers : ℕ) (schedule : ℕ → ℕ) (s : Pool) (n : ℕ) :
    Reaches env workers s (s.run env workers schedule n) := by
  induction n generalizing s with
  | zero => exact .refl
  | succ n ih =>
    refine .trans ?_ (ih _)
    rcases turn_cases env workers s (schedule n) with hstep | ⟨-, hsame⟩
    · exact .single hstep
    · exact hsame.symm ▸ .refl

/-! ## The end -/

theorem stepsLeft_eq_sum (env : Environment) (s : Pool) :
    s.stepsLeft env = (s.tasks.map (Task.stepsLeft env)).sum := by
  rw [stepsLeft, List.sum_eq_foldr, List.foldr_map]

theorem stepsLeft_eq_zero_iff : s.stepsLeft env = 0 ↔ s.Done := by
  rw [stepsLeft_eq_sum, List.sum_eq_zero_iff, List.forall_mem_map]
  exact forall₂_congr fun t _ => Task.stepsLeft_eq_zero_iff

theorem stepsLeft_advance (h : s.advance? env workers i = some s') :
    s'.stepsLeft env < s.stepsLeft env := by
  obtain ⟨before, t, after, htasks, -, hadmits, rfl⟩ := advance?_eq_some h
  have hstep := Task.stepsLeft_step env s.ledger (result?_of_admits hadmits)
  simp only [stepsLeft_eq_sum, htasks, List.map_append, List.map_cons, List.sum_append,
    List.sum_cons]
  omega

/-- With as many steps as are left all jobs get done. -/
theorem done_run (hworkers : 0 < workers) {n : ℕ} (h : s.stepsLeft env ≤ n) :
    (s.run env workers schedule n).Done := by
  induction n generalizing s with
  | zero => exact stepsLeft_eq_zero_iff.1 (Nat.le_zero.1 h)
  | succ n ih =>
    apply ih
    rcases turn_cases env workers s (schedule n) with ⟨j, hj⟩ | ⟨hstuck, hsame⟩
    · have := stepsLeft_advance hj
      omega
    · -- Nothing can go on, so all jobs are done and no step is left.
      have hdone : s.Done := by
        by_contra hnot
        obtain ⟨j, s', hj⟩ := exists_advance env hworkers hnot
        rw [hstuck] at hj
        cases hj
      rw [hsame, stepsLeft_eq_zero_iff.2 hdone]
      exact n.zero_le

theorem map_fst_results (h : s.Done) : s.results.map Prod.fst = s.tasks.map Task.job := by
  rw [results, List.map_filterMap, ← List.filterMap_eq_map]
  apply List.filterMap_congr
  intro t ht
  obtain ⟨result, hresult⟩ := Option.isSome_iff_exists.1 (h t ht)
  rw [Task.result?, hresult]
  rfl

/-- All jobs get done whatever the schedule. Their results stand in the order of the jobs, and these
and the ledger are what comes of handling the jobs one after the other in some order. -/
theorem finish_serial (env : Environment) (hworkers : 0 < workers) (l : Ledger)
    (jobs : List Job) (schedule : ℕ → ℕ) :
    ((start l jobs).finish env workers schedule).results.map Prod.fst = jobs ∧
      ∃ order : List Job, order.Perm jobs ∧
        (handleAll env l order).1 = ((start l jobs).finish env workers schedule).ledger ∧
        (handleAll env l order).2.Perm ((start l jobs).finish env workers schedule).results := by
  have hvalid := (valid_start env workers l jobs).reaches
    (reaches_run env workers schedule _ ((start l jobs).stepsLeft env))
  have hdone : ((start l jobs).finish env workers schedule).Done := done_run hworkers le_rfl
  have hjobs := map_fst_results hdone
  rw [finish, hvalid.jobs] at hjobs
  obtain ⟨order, hhandled, horder⟩ := hvalid.serial
  refine ⟨hjobs, order.map Prod.fst, ?_, ?_, ?_⟩
  · rw [← hjobs]
    exact horder.map Prod.fst
  · rw [hhandled]
    rfl
  · rw [hhandled]
    exact horder

/-! ## All that can happen -/

theorem run_of_done (h : s.Done) (n : ℕ) : s.run env workers schedule n = s := by
  induction n with
  | zero => rfl
  | succ n ih => rw [run, turn_of_done h, ih]

/-- A schedule counts up to the steps that are taken. -/
theorem run_congr {schedule' : ℕ → ℕ} {n : ℕ} (h : ∀ m < n, schedule m = schedule' m) (s : Pool) :
    s.run env workers schedule n = s.run env workers schedule' n := by
  induction n generalizing s with
  | zero => rfl
  | succ n ih =>
    rw [run, run, h n n.lt_succ_self, ih fun m hm => h m (Nat.lt_succ_of_lt hm)]

theorem exists_schedule {n : ℕ} (h : Reaches env workers s s') (hdone : s'.Done)
    (hn : s.stepsLeft env ≤ n) : ∃ schedule, s.run env workers schedule n = s' := by
  induction n generalizing s with
  | zero =>
    rcases h.cases_head with rfl | ⟨next, ⟨i, hi⟩, -⟩
    · exact ⟨id, rfl⟩
    · have := stepsLeft_advance hi
      omega
  | succ n ih =>
    rcases h.cases_head with rfl | ⟨next, ⟨i, hi⟩, hrest⟩
    · exact ⟨id, run_of_done hdone _⟩
    · have hless := stepsLeft_advance hi
      obtain ⟨schedule, hschedule⟩ := ih hrest (by omega)
      refine ⟨fun m => if m = n then i else schedule m, ?_⟩
      rw [run, if_pos rfl, turn_of_advance hi, ← hschedule]
      exact run_congr (fun m hm => if_neg hm.ne) _

/-- The schedules are all ways in which a pool can come to its end. -/
theorem reaches_done_iff (hworkers : 0 < workers) :
    Reaches env workers s s' ∧ s'.Done ↔ ∃ schedule, s.finish env workers schedule = s' := by
  constructor
  · rintro ⟨hreaches, hdone⟩
    exact exists_schedule hreaches hdone le_rfl
  · rintro ⟨schedule, rfl⟩
    exact ⟨reaches_run env workers schedule s _, done_run hworkers le_rfl⟩

/-! ## Every order -/

section

variable {before after : List Task} {job : Job} {p : Phase}

theorem advance?_of_admits {t : Task} (htasks : s.tasks = before ++ t :: after)
    (hadmits : s.admits workers t.phase) :
    s.advance? env workers before.length = some ⟨(t.phase.step env s.ledger t.job).1,
      before ++ ⟨t.job, (t.phase.step env s.ledger t.job).2⟩ :: after⟩ := by
  have ht : s.tasks[before.length]? = some t := by simp [htasks]
  rw [advance?, ht]
  simp [hadmits, htasks]

theorem admits_of_idle (hworkers : 0 < workers)
    (hidle : ∀ t ∈ before ++ after, t.phase.hasPermit = false) (hp : p.result? = none) :
    admits workers ⟨l, before ++ ⟨job, p⟩ :: after⟩ p := by
  have hpermits := countP_eq_zero_of hidle
  have hwriters := countP_eq_zero_of fun t ht => (Phase.free_of_idle (hidle t ht)).1
  have hreaders := countP_eq_zero_of fun t ht => (Phase.free_of_idle (hidle t ht)).2
  cases p with
  | waiting =>
    rw [admits_waiting_iff, countP_insert, hpermits]
    exact hworkers
  | planned signal plan =>
    rw [admits_planned_iff, countP_insert, countP_insert, hwriters, hreaders]
    exact ⟨rfl, rfl⟩
  | asking tenant iban =>
    rw [admits_asking_iff, countP_insert, hwriters]
    rfl
  | done => cases hp
  | _ => rfl

/-- While nobody else is at work, a job comes to what handling it comes to. -/
theorem reaches_goOn (env : Environment) (hworkers : 0 < workers)
    (hidle : ∀ t ∈ before ++ after, t.phase.hasPermit = false) (l : Ledger) (job : Job)
    (p : Phase) :
    Reaches env workers ⟨l, before ++ ⟨job, p⟩ :: after⟩
      ⟨(p.goOn env l job).1, before ++ ⟨job, .done (p.goOn env l job).2⟩ :: after⟩ := by
  induction hn : (Task.mk job p).stepsLeft env using Nat.strong_induction_on generalizing l p with
  | _ n ih =>
    cases hp : p.result? with
    | some result =>
      cases p with
      | done found => exact .refl
      | _ => cases hp
    | none =>
      have hless := Task.stepsLeft_step (t := ⟨job, p⟩) env l hp
      have hrest := ih _ (hn ▸ hless) (p.step env l job).1 (p.step env l job).2 rfl
      rw [Phase.goOn_step] at hrest
      exact .head ⟨_, advance?_of_admits rfl (admits_of_idle hworkers hidle hp)⟩ hrest

end

theorem exists_reaches_of_perm (env : Environment) (hworkers : 0 < workers) {order : List Job}
    (hidle : ∀ t ∈ s.tasks, t.phase.hasPermit = false)
    (h : order.Perm (s.tasks.filterMap Task.waiting?)) :
    ∃ s', Reaches env workers s s' ∧ s'.Done ∧ s'.ledger = (handleAll env s.ledger order).1 ∧
      ((handleAll env s.ledger order).2 ++ s.results).Perm s'.results := by
  induction order generalizing s with
  | nil =>
    refine ⟨s, .refl, fun t ht => ?_, rfl, .refl _⟩
    have hnone := List.filterMap_eq_nil_iff.1 h.nil_eq.symm t ht
    have hpermit := hidle t ht
    obtain ⟨job, phase⟩ := t
    cases phase with
    | waiting => cases hnone
    | done => rfl
    | _ => cases hpermit
  | cons job order ih =>
    obtain ⟨t, ht, hjob⟩ := List.mem_filterMap.1 (h.mem_iff.1 List.mem_cons_self)
    obtain ⟨before, after, htasks⟩ := List.append_of_mem ht
    obtain ⟨l, tasks⟩ := s
    subst htasks
    obtain rfl : t = ⟨job, .waiting⟩ := by
      obtain ⟨found, phase⟩ := t
      cases phase with
      | waiting =>
        cases hjob
        rfl
      | _ => cases hjob
    have hothers : ∀ t ∈ before ++ after, t.phase.hasPermit = false := fun t ht =>
      hidle t (List.perm_middle.mem_iff.2 (List.mem_cons_of_mem _ ht))
    have hbegin := reaches_goOn env hworkers hothers l job .waiting
    have hidle' : ∀ t ∈ before ++ ⟨job, .done (handle env l job).2⟩ :: after,
        t.phase.hasPermit = false := by
      intro t ht
      rcases List.mem_cons.1 (List.perm_middle.mem_iff.1 ht) with rfl | ht
      · rfl
      · exact hothers t ht
    have hleft : order.Perm
        ((before ++ ⟨job, .done (handle env l job).2⟩ :: after).filterMap Task.waiting?) := by
      rw [filterMap_insert_some hjob] at h
      rw [filterMap_insert_none rfl]
      exact (List.perm_cons job).1 (h.trans List.perm_middle)
    obtain ⟨s', hreaches, hdone, hledger, hresults⟩ :=
      ih (s := ⟨(handle env l job).1, before ++ ⟨job, .done (handle env l job).2⟩ :: after⟩)
        hidle' hleft
    refine ⟨s', hbegin.trans hreaches, hdone, hledger, .trans ?_ hresults⟩
    have hresult : Task.result? ⟨job, .done (handle env l job).2⟩ =
        some (job, (handle env l job).2) := rfl
    rw [results, results, filterMap_insert_none rfl, filterMap_insert_some hresult]
    exact List.perm_middle.symm.trans (List.perm_middle.symm.append_left _)

/-- In whichever order jobs are handled one after the other, some schedule comes to the same. -/
theorem exists_schedule_of_perm (env : Environment) (hworkers : 0 < workers) (l : Ledger)
    {order : List Job} (h : order.Perm jobs) :
    ∃ schedule, ((start l jobs).finish env workers schedule).ledger = (handleAll env l order).1 ∧
      (handleAll env l order).2.Perm ((start l jobs).finish env workers schedule).results := by
  have hwaiting : (start l jobs).tasks.filterMap Task.waiting? = jobs := by
    simp [start, List.filterMap_map, Function.comp_def, Task.waiting?]
  have hidle : ∀ t ∈ (start l jobs).tasks, t.phase.hasPermit = false := by
    simp [start, Phase.hasPermit]
  have hresults : (start l jobs).results = [] := by
    simp [start, results, Task.result?, Phase.result?]
  obtain ⟨s, hreaches, hdone, hledger, hs⟩ := exists_reaches_of_perm env hworkers hidle
    (hwaiting.symm ▸ h)
  obtain ⟨schedule, rfl⟩ := (reaches_done_iff hworkers).1 ⟨hreaches, hdone⟩
  refine ⟨schedule, hledger, ?_⟩
  rwa [hresults, List.append_nil] at hs

end Pool

end PaymentBooking
