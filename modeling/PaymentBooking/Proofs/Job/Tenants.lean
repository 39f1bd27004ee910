import PaymentBooking.Proofs.Booking.Renumbering
import PaymentBooking.Proofs.Booking.Transfer
import PaymentBooking.Proofs.Job.Details
import PaymentBooking.Proofs.Lookup
import PaymentBooking.Proofs.Request

/-! # Tenants do not interfere

Jobs of all tenants are handled on one ledger, which numbers their transactions in one sequence. For
a tenant that makes no difference: without the jobs of all others its own have the same outcomes and
leave it the same book, but for the numbers.
-/

namespace PaymentBooking

def Job.isFor (tenant : String) (job : Job) : Bool :=
  (job.vars.find? "tenantIdentifier").bind Json.asText? = some tenant

theorem Job.isFor_iff {tenant : String} {job : Job} :
    job.isFor tenant ↔ job.vars.find? "tenantIdentifier" = some (.text tenant) := by
  cases hfind : job.vars.find? "tenantIdentifier" with
  | none => simp [isFor, hfind]
  | some value => cases value <;> simp [isFor, hfind, Json.asText?]

theorem BookingStage.Transfers.find?_tenant {directory : TenantDirectory} {vars : Variables}
    {stage : BookingStage} {t : Transfer} (h : stage.Transfers directory vars t) :
    vars.find? "tenantIdentifier" = some (.text t.tenant) := by
  cases h with
  | technicalCredit hread => exact TechnicalCreditRequest.find?_tenant hread
  | conversionCredit hstage hread => exact ConversionCreditRequest.find?_tenant hread
  | conversionDebit hread => exact ConversionDebitRequest.find?_tenant hread
  | revert hstage hread => exact RevertRequest.find?_tenant hread
  | disposalDeposit hread => exact DisposalDepositRequest.find?_tenant hread

theorem BookingStage.isFor_of_plan {env : Environment} {job : Job} {stage : BookingStage}
    {plan : Plan} (h : stage.plan env job.vars = .ok plan) :
    job.isFor plan.outline.tenant.name := by
  obtain ⟨t, ht, htenant, -⟩ := transfers_of_plan h
  rw [Job.isFor_iff, ← htenant]
  exact ht.find?_tenant

/-- Ledgers on which one tenant has books that differ in their numbers only, the first of them not
behind in numbers. -/
structure Ledger.AlikeFor (tenant : String) (l m : Ledger) : Prop where
  books : Option.Rel Book.Renumbered (l.books.find? tenant) (m.books.find? tenant)
  next_le : m.next ≤ l.next
  left : ∀ b, l.books.find? tenant = some b → b.Sound l.next
  right : ∀ b, m.books.find? tenant = some b → b.Sound m.next

namespace Worker

variable {env : Environment} {l m : Ledger} {job : Job} {tenant : String}

/-! ## Jobs of others -/

theorem handle_frame (hsettings : env.settings.Addressable) (l : Ledger) (job : Job) :
    l.next ≤ (handle env l job).1.next ∧ (handle env l job).1.next ≤ l.next + 4 ∧
      ∀ other, job.isFor other = false →
        (handle env l job).1.books.find? other = l.books.find? other := by
  rcases handle_cases env l job with
    ⟨signal, e, h⟩ | ⟨operation, h⟩ | ⟨stage, l', output, -, hdone, h⟩
  · simp [h]
  · simp [h]
  · rw [h]
    cases stage with
    | accountLookup =>
      rw [← congrArg Prod.fst hdone]
      simp [perform]
    | booking stage =>
      obtain ⟨plan, hplan, hsubmit⟩ := perform_booking_eq_ok_iff.1 hdone
      obtain ⟨⟨receipt, haccepted⟩, -⟩ := Plan.submit_eq_ok_iff.1 hsubmit
      obtain ⟨b, p, -, hrun, rfl, -⟩ := Ledger.submit_eq_ok haccepted
      have hnext : p.next = l.next + plan.postings.length :=
        (Progress.posts_of_run hsettings hrun).next
      have hlength := BookingStage.length_postings_le hplan
      refine ⟨by dsimp only; omega, by dsimp only; omega, fun other hother => ?_⟩
      apply Dict.find?_insert_of_ne
      rintro rfl
      exact Bool.false_ne_true (hother.symm.trans (BookingStage.isFor_of_plan hplan))

end Worker

/-! ## Jobs of the tenant -/

namespace Ledger.AlikeFor

variable {l m : Ledger} {tenant : String}

theorem lookup (h : l.AlikeFor tenant m) (iban : Iban) :
    l.lookup tenant iban = m.lookup tenant iban := by
  have hbooks := h.books
  rw [Ledger.lookup, Ledger.lookup, book, book]
  generalize l.books.find? tenant = left, m.books.find? tenant = right at hbooks
  cases hbooks with
  | none => rfl
  | some hbook => simp [Except.map, hbook.ibans]

/-- A plan meets the same fate on both ledgers and leaves two such ledgers. -/
theorem submit (h : l.AlikeFor tenant m) {env : Environment} (hsettings : env.settings.Addressable)
    {plan : Plan} (htenant : plan.outline.tenant.name = tenant)
    (hroom : l.HasRoom plan.postings.length) (vars : Variables) :
    (plan.submit env l vars).2 = (plan.submit env m vars).2 ∧
      (plan.submit env l vars).1.AlikeFor tenant (plan.submit env m vars).1 := by
  subst htenant
  have hbooks := h.books
  generalize hl : l.books.find? plan.outline.tenant.name = left,
    hm : m.books.find? plan.outline.tenant.name = right at hbooks
  cases hbooks with
  | none =>
    rw [Plan.submit_of_unknown hl, Plan.submit_of_unknown hm]
    exact ⟨rfl, h⟩
  | @some b c hbook =>
    have halike : Progress.Alike ⟨b, l.next, []⟩ ⟨c, m.next, []⟩ :=
      ⟨hbook, h.next_le, h.left b hl, h.right c hm⟩
    rw [Plan.submit_eq_settleAll hsettings hl hroom,
      Plan.submit_eq_settleAll hsettings hm (hroom.of_le h.next_le)]
    have hagree := halike.settleAll env.settings plan.outline.statement 0 plan.postings
    generalize Progress.settleAll env.settings plan.outline.statement 0 ⟨b, l.next, []⟩
        plan.postings = x,
      Progress.settleAll env.settings plan.outline.statement 0 ⟨c, m.next, []⟩
        plan.postings = y at hagree
    cases hagree with
    | error failure => exact ⟨rfl, h⟩
    | @ok p q hpq =>
      refine ⟨rfl, ?_, hpq.next_le, ?_, ?_⟩
      · rw [Dict.find?_insert_self, Dict.find?_insert_self]
        exact .some hpq.books
      · intro b hb
        rw [Dict.find?_insert_self] at hb
        cases hb
        exact hpq.left
      · intro c hc
        rw [Dict.find?_insert_self] at hc
        cases hc
        exact hpq.right

/-- A job that touches no book of the tenant leaves two such ledgers. -/
theorem of_frame (h : l.AlikeFor tenant m) {l' : Ledger} (hle : l.next ≤ l'.next)
    (hbook : l'.books.find? tenant = l.books.find? tenant) : l'.AlikeFor tenant m where
  books := hbook ▸ h.books
  next_le := h.next_le.trans hle
  left b hb := (h.left b (hbook ▸ hb)).mono hle
  right := h.right

end Ledger.AlikeFor

namespace Worker

variable {env : Environment} {l m : Ledger} {job : Job} {tenant : String}

/-- A lookup asks for the IBANs of the tenant that the job names, and for nothing else. -/
theorem find_eq_of_alikeFor (h : l.AlikeFor tenant m) (hjob : job.isFor tenant) :
    AccountLookup.find env.directory l job.vars = AccountLookup.find env.directory m job.vars := by
  cases hsubject : AccountLookup.subject env.directory job.vars with
  | error e =>
    rw [AccountLookup.find_of_subject_eq_error hsubject,
      AccountLookup.find_of_subject_eq_error hsubject]
  | ok subject =>
    obtain ⟨r, hread, -, hname⟩ := AccountLookup.subject_eq_ok hsubject
    cases (Job.isFor_iff.1 hjob).symm.trans (AccountLookupRequest.find?_tenant hread)
    rw [AccountLookup.find_of_subject hsubject, AccountLookup.find_of_subject hsubject, ← hname,
      h.lookup]

/-- What a stage does for the tenant is the same on both ledgers. -/
theorem perform_agree (hsettings : env.settings.Addressable) (h : l.AlikeFor tenant m)
    (hroom : l.HasRoom 4) (hjob : job.isFor tenant) (stage : Stage) :
    (perform env l job.vars stage).2 = (perform env m job.vars stage).2 ∧
      (perform env l job.vars stage).1.AlikeFor tenant (perform env m job.vars stage).1 := by
  cases stage with
  | accountLookup =>
    rw [perform, perform, AccountLookup.run, AccountLookup.run, find_eq_of_alikeFor h hjob]
    exact ⟨rfl, h⟩
  | booking stage =>
    cases hplan : stage.plan env job.vars with
    | error e =>
      rw [perform_of_plan_eq_error hplan, perform_of_plan_eq_error hplan]
      exact ⟨rfl, h⟩
    | ok plan =>
      have htenant : plan.outline.tenant.name = tenant := by
        have hown := Job.isFor_iff.1 (BookingStage.isFor_of_plan hplan)
        cases (Job.isFor_iff.1 hjob).symm.trans hown
        rfl
      rw [perform_of_plan hplan, perform_of_plan hplan]
      exact h.submit hsettings htenant (hroom.mono (BookingStage.length_postings_le hplan)) job.vars

/-- A job of the tenant has the same outcome on both ledgers and leaves two such ledgers. -/
theorem handle_agree (hsettings : env.settings.Addressable) (h : l.AlikeFor tenant m)
    (hroom : l.HasRoom 4) (hjob : job.isFor tenant) :
    (handle env l job).2 = (handle env m job).2 ∧
      (handle env l job).1.AlikeFor tenant (handle env m job).1 := by
  cases hstage : Stage.ofJobType? job.type with
  | none =>
    have hnone : ∀ k, handle env k job =
        (k, .ok (.ofError unsupportedSignal (.unknownStage job.type))) := by
      intro k
      rw [handle, hstage]
    rw [hnone l, hnone m]
    exact ⟨rfl, h⟩
  | some stage =>
    have htype := Stage.ofJobType?_eq_some_iff.1 hstage
    obtain ⟨hresult, halike⟩ := perform_agree hsettings h hroom hjob stage
    rw [handle_of_stage htype, handle_of_stage htype, hresult]
    exact ⟨rfl, halike⟩

/-! ## Jobs one after the other -/

theorem next_le_handleAll (hsettings : env.settings.Addressable) (l : Ledger) (jobs : List Job) :
    l.next ≤ (handleAll env l jobs).1.next := by
  induction jobs generalizing l with
  | nil => exact le_rfl
  | cons job jobs ih => exact (handle_frame hsettings l job).1.trans (ih _)

theorem next_handleAll_le (hsettings : env.settings.Addressable) (l : Ledger) (jobs : List Job) :
    (handleAll env l jobs).1.next ≤ l.next + 4 * jobs.length := by
  induction jobs generalizing l with
  | nil => exact le_rfl
  | cons job jobs ih =>
    obtain ⟨-, hnext, -⟩ := handle_frame hsettings l job
    have hrest := ih (handle env l job).1
    rw [handleAll, List.length_cons]
    dsimp only
    omega

theorem handleAll_agree (hsettings : env.settings.Addressable) (jobs : List Job)
    (h : l.AlikeFor tenant m) (hroom : (handleAll env l jobs).1.HasRoom 4) :
    (handleAll env l jobs).2.filter (fun r => r.1.isFor tenant) =
        (handleAll env m (jobs.filter (Job.isFor tenant))).2 ∧
      (handleAll env l jobs).1.AlikeFor tenant
        (handleAll env m (jobs.filter (Job.isFor tenant))).1 := by
  induction jobs generalizing l m with
  | nil => exact ⟨rfl, h⟩
  | cons job jobs ih =>
    obtain ⟨hle, -, hframe⟩ := handle_frame hsettings l job
    change (handleAll env (handle env l job).1 jobs).1.HasRoom 4 at hroom
    have hfirst : l.HasRoom 4 := hroom.of_le (hle.trans (next_le_handleAll hsettings _ jobs))
    by_cases hjob : job.isFor tenant
    · obtain ⟨houtcome, halike⟩ := handle_agree hsettings h hfirst hjob
      obtain ⟨hrest, hend⟩ := ih halike hroom
      rw [List.filter_cons_of_pos hjob, handleAll, handleAll]
      refine ⟨?_, hend⟩
      rw [List.filter_cons_of_pos (by exact hjob), hrest, houtcome]
    · have hother := hframe tenant (Bool.eq_false_iff.2 hjob)
      obtain ⟨hrest, hend⟩ := ih (h.of_frame hle hother) hroom
      rw [List.filter_cons_of_neg hjob, handleAll]
      refine ⟨?_, hend⟩
      rw [List.filter_cons_of_neg (by exact hjob), hrest]

/-- Whatever others have done on the ledger, and whatever they have booked in between, every job of
a tenant has the outcome that it has without their jobs, and the book of the tenant ends up the
same: its balances, its IBANs, its transactions in their order, and its details, each on the
transaction at the same place. Only the numbers differ, and texts that show them. The numbers are
words, and must not run out. -/
theorem handleAll_filter_isFor (hsettings : env.settings.Addressable) (history : List Command)
    (jobs : List Job) (tenant : String)
    (hroom : (handleAll env (Ledger.after history) jobs).1.HasRoom 4) :
    (handleAll env (Ledger.after history) jobs).2.filter (fun r => r.1.isFor tenant) =
        (handleAll env (Ledger.after history) (jobs.filter (Job.isFor tenant))).2 ∧
      Option.Rel Book.Renumbered
        ((handleAll env (Ledger.after history) jobs).1.books.find? tenant)
        ((handleAll env (Ledger.after history)
          (jobs.filter (Job.isFor tenant))).1.books.find? tenant) := by
  have hsound := Ledger.sound_after history
  have hself : (Ledger.after history).AlikeFor tenant (Ledger.after history) := by
    refine ⟨?_, le_rfl, hsound.books tenant, hsound.books tenant⟩
    cases hbook : (Ledger.after history).books.find? tenant with
    | none => exact .none
    | some b => exact .some (hsound.books tenant b hbook).renumbered_self
  obtain ⟨houtcomes, halike⟩ := handleAll_agree hsettings jobs hself hroom
  exact ⟨houtcomes, halike.books⟩

end Worker

/-- An environment in which two tenants can book a returned payment. -/
def Environment.sharing : Environment where
  settings := .standard
  directory := .ofList (["t", "u"].map fun name => (name, ⟨.ofList
    [("S.bookCreditedAmountToConversionAccountInReturn.ConversionAccount.DepositTransactionAmount",
      11)], none, none⟩))
  clock := fun _ => "20240131"

/-- A job that books a returned payment for a tenant. -/
def Job.returning (tenant : String) : Job :=
  ⟨1, "bookCreditedAmountToConversionAccountInReturn",
    Variables.returning.insert "tenantIdentifier" (.text tenant)⟩

/-- Both tenants have opened the account of that job. -/
def Command.sharing : List Command :=
  [.openAccount "t" (-7) .zero, .openAccount "u" (-7) .zero]

theorem Worker.handleAll_sharing :
    [Job.returning "u", Job.returning "t"].filter (Job.isFor "t") = [Job.returning "t"] ∧
      (handleAll .sharing (Ledger.after Command.sharing)
        [.returning "u", .returning "t"]).1.HasRoom 4 ∧
      (handleAll .sharing (Ledger.after Command.sharing) [.returning "u", .returning "t"]).2.filter
          (fun r => r.1.isFor "t") =
        (handleAll .sharing (Ledger.after Command.sharing) [.returning "t"]).2 ∧
      Option.Rel Book.Renumbered
        ((handleAll .sharing (Ledger.after Command.sharing)
          [.returning "u", .returning "t"]).1.books.find? "t")
        ((handleAll .sharing (Ledger.after Command.sharing)
          [.returning "t"]).1.books.find? "t") := by
  have hsettings : Environment.sharing.settings.Addressable :=
    LedgerSettings.addressable_standard
  have hfilter : [Job.returning "u", Job.returning "t"].filter (Job.isFor "t") =
      [Job.returning "t"] := by
    have hother : ¬(Job.returning "u").isFor "t" := by decide +kernel
    have hown : (Job.returning "t").isFor "t" := by decide +kernel
    rw [List.filter_cons_of_neg hother, List.filter_cons_of_pos hown, List.filter_nil]
  have hroom : (handleAll .sharing (Ledger.after Command.sharing)
      [.returning "u", .returning "t"]).1.HasRoom 4 := by
    have hle := next_handleAll_le hsettings (Ledger.after Command.sharing)
      [.returning "u", .returning "t"]
    have hnext : (Ledger.after Command.sharing).next = 1 := rfl
    rw [hnext] at hle
    simp only [List.length_cons, List.length_nil] at hle
    rw [Ledger.HasRoom]
    omega
  have hsame := handleAll_filter_isFor hsettings Command.sharing
    [.returning "u", .returning "t"] "t" hroom
  rw [hfilter] at hsame
  exact ⟨hfilter, hroom, hsame⟩

end PaymentBooking
