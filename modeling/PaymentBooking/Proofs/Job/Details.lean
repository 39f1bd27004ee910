import PaymentBooking.Proofs.Booking.Description
import PaymentBooking.Proofs.Booking.Settlement
import PaymentBooking.Proofs.Job.Atomicity

/-! # The details that a job leaves

For every leg of a completed booking the ledger keeps the columns of its detail, each with its text
and with the number of the transaction in the place of every placeholder that the text shows. A text
that shows none is kept as it is.
-/

namespace PaymentBooking

namespace Statement

/-- Numbers are put into the texts of a detail only, for no name of a column has a placeholder. -/
theorem filled_columns (s : Statement) (q : Posting) (n : ℕ) :
    Json.filled n (s.columns q) =
      .ofMembers ((s.columns q).map fun c => (c.1, .text (Json.fill n c.2))) := by
  have hnames : ∀ c ∈ s.columns q, Json.fill n c.1 = c.1 := by
    intro c hc
    rw [Json.fill_eq_self_iff]
    simp only [columns, List.mem_filterMap, List.mem_cons, List.not_mem_nil, or_false] at hc
    obtain ⟨⟨name, value⟩, hcolumn, hc⟩ := hc
    obtain ⟨text, -, rfl⟩ := Option.map_eq_some_iff.1 hc
    dsimp only
    simp only [Prod.mk.injEq] at hcolumn
    rcases hcolumn with ⟨rfl, -⟩ | ⟨rfl, -⟩ | ⟨rfl, -⟩ | ⟨rfl, -⟩ | ⟨rfl, -⟩ | ⟨rfl, -⟩ |
      ⟨rfl, -⟩ | ⟨rfl, -⟩ <;> decide
  rw [Json.filled]
  congr 1
  apply List.map_congr_left
  intro c hc
  rw [hnames c hc]

theorem member?_columns (s : Statement) (q : Posting) (f : String → Json) :
    ∀ c ∈ s.columns q,
      Json.member? c.1 (.ofMembers ((s.columns q).map fun c => (c.1, f c.2))) = some (f c.2) := by
  intro c hc
  apply Json.member?_ofMembers
  · rw [List.map_map]
    exact s.nodup_columns q
  · exact List.mem_map_of_mem hc

/-- The columns are kept as they are exactly if none of their texts shows a placeholder. -/
theorem columns_fill_eq_iff (s : Statement) (q : Posting) (n : ℕ) :
    Json.ofMembers ((s.columns q).map fun c => (c.1, .text (Json.fill n c.2))) =
        .ofMembers ((s.columns q).map fun c => (c.1, .text c.2)) ↔
      ∀ c ∈ s.columns q, Text.occursIn resourcePlaceholder.toList c.2.toList = false := by
  constructor
  · intro heq c hc
    have hfilled := s.member?_columns q (fun text => .text (Json.fill n text)) c hc
    rw [heq, s.member?_columns q .text c hc, Option.some.injEq, Json.text.injEq] at hfilled
    exact (Json.fill_eq_self_iff n c.2).1 hfilled.symm
  · intro hall
    congr 1
    apply List.map_congr_left
    intro c hc
    rw [(Json.fill_eq_self_iff n c.2).2 (hall c hc)]

end Statement

namespace Progress

variable {settings : LedgerSettings} {date : String} {statement : Statement}

/-- The two requests of a posting leave its detail under the number of its transaction. -/
theorem details_of_items {p p' p'' : Progress} {q : Posting} (h : settings.Addressable)
    (htransaction : p.step (q.transactionItem settings date) = .ok p')
    (hdetail : p'.step (q.detailItem settings statement) = .ok p'') :
    p''.book.details = p.book.details ++ [q.detail settings statement p.next] := by
  obtain ⟨e, he, hadv⟩ := step_eq_ok htransaction
  rw [Posting.entryOf_transactionItem h] at he
  cases he
  cases hadv with
  | transaction hopen hbalance =>
    obtain ⟨e, he, hadv⟩ := step_eq_ok hdetail
    -- The number could be read, so it is one that the columns can be read with.
    obtain ⟨resource, columns, rfl, hresource⟩ :=
      Posting.entryOf_detailItem h List.getLast?_concat he
    have hlt : p.next < 2 ^ 63 := by
      have := resource.toInt_lt
      omega
    rw [Posting.entryOf_detailItem_of_lt h List.getLast?_concat hlt] at he
    cases he
    cases hadv with
    | detail hmem hid =>
      rename_i t
      rw [hresource] at hid
      have hnumber : t.resource = p.next := Int.ofNat_inj.1 hid
      rw [hnumber]
      rfl

theorem details_of_run {index : ℕ} {p r : Progress} {qs : List Posting} (h : settings.Addressable)
    (hrun : run index p (qs.flatMap (Posting.items settings date statement)) = .ok r) :
    r.book.details = p.book.details ++
      qs.mapIdx fun i q => q.detail settings statement (p.next + i) := by
  induction qs generalizing index p with
  | nil =>
    cases hrun
    simp
  | cons q qs ih =>
    obtain ⟨p', htransaction, hrun⟩ := run_cons_eq_ok hrun
    obtain ⟨p'', hdetail, hrun⟩ := run_cons_eq_ok hrun
    have hnext : p''.next = p.next + 1 := (posts_of_items h htransaction hdetail).next
    rw [ih hrun, details_of_items h htransaction hdetail, hnext, List.mapIdx_cons,
      List.append_assoc]
    simp [Nat.add_assoc, Nat.add_comm 1]

end Progress

theorem Plan.details_of_submit {env : Environment} {plan : Plan} {l l' : Ledger}
    {receipt : List ℕ} (hsettings : env.settings.Addressable)
    (hsubmit : l.submit (plan.batch env.settings).tenant (plan.batch env.settings).items =
      (l', .ok receipt)) :
    (l'.bookOf plan.outline.tenant.name).details =
      (l.bookOf plan.outline.tenant.name).details ++ plan.postings.mapIdx fun i q =>
        q.detail env.settings plan.outline.statement (l.next + i) := by
  obtain ⟨b, r, hb, hrun, rfl, -⟩ := Ledger.submit_eq_ok hsubmit
  have hbefore : l.bookOf plan.outline.tenant.name = b := Ledger.bookOf_of_find? hb
  have hafter : Ledger.bookOf ⟨l.books.insert plan.outline.tenant.name r.book, r.next⟩
      plan.outline.tenant.name = r.book := Ledger.bookOf_setBook_self l _ _
  rw [hbefore]
  exact (congrArg Book.details hafter).trans (Progress.details_of_run hsettings hrun)

namespace Worker

/-- A completed booking leaves one detail for every movement of its stage, under the number of its
transaction. Its columns are the texts of the statement, the code and the purpose, as far as there
are any, with that number in the place of every placeholder; they are these texts themselves exactly
if none of them shows a placeholder. -/
theorem handle_details {env : Environment} {l l' : Ledger} {job : Job} {stage : BookingStage}
    {output : Variables} (hsettings : env.settings.Addressable) (htype : job.type = stage.jobType)
    (h : handle env l job = (l', .ok (.completed output))) :
    ∃ plan context movements, stage.plan env job.vars = .ok plan ∧
      stage.Moves env.directory job.vars context movements ∧
      stage.Describes job.vars plan.outline.statement ∧
      List.Forall₂ (fun q m => q.leg.purpose = m.purpose ∧
        q.code = (env.directory.codes.find? context.tenant).bind fun codes => codes.find? m.key)
        plan.postings movements ∧
      (l'.bookOf context.tenant).details =
        (l.bookOf context.tenant).details ++ plan.postings.mapIdx (fun i q =>
          ⟨l.next + i, env.settings.detailTable,
            .ofMembers ((plan.outline.statement.columns q).map fun c =>
              (c.1, .text (Json.fill (l.next + i) c.2)))⟩) ∧
      ∀ q ∈ plan.postings, ∀ n,
        Json.ofMembers ((plan.outline.statement.columns q).map fun c =>
            (c.1, .text (Json.fill n c.2))) =
          .ofMembers ((plan.outline.statement.columns q).map fun c => (c.1, .text c.2)) ↔
        ∀ c ∈ plan.outline.statement.columns q,
          Text.occursIn resourcePlaceholder.toList c.2.toList = false := by
  obtain ⟨plan, hplan, hsubmit⟩ := (handle_eq_completed_iff htype).1 h
  obtain ⟨⟨receipt, haccepted⟩, -⟩ := Plan.submit_eq_ok_iff.1 hsubmit
  obtain ⟨o, houtline, ho⟩ := bind_eq_ok_iff.1 hplan
  obtain ⟨context, htenant, hmoves⟩ := BookingStage.moves_of_outline houtline
  have hdescribes := BookingStage.describes_of_outline houtline
  have hname := (TenantDirectory.resolve_eq_ok htenant).1
  have hcodes := TenantDirectory.codes_of_resolve htenant
  have hcode := Outline.code_of_plan ho
  obtain ⟨rfl, hlegs, -⟩ := Outline.legs_of_plan ho
  rw [hlegs, List.map_map] at hmoves
  have hdetails := Plan.details_of_submit hsettings haccepted
  rw [hname] at hdetails
  refine ⟨plan, context, _, hplan, hmoves, hdescribes, ?_, ?_, ?_⟩
  · rw [List.forall₂_map_right_iff, List.forall₂_same]
    intro q hq
    refine ⟨rfl, ?_⟩
    rw [hcode q hq, Tenant.code?, hcodes]
    rfl
  · rw [hdetails]
    simp only [Posting.detail, Statement.filled_columns]
  · exact fun q _ n => plan.outline.statement.columns_fill_eq_iff q n

end Worker

/-- An environment in which a returned payment can be booked. -/
def Environment.returning : Environment where
  settings := .standard
  directory := .ofList [("t", ⟨.ofList [("S.bookCreditedAmountToConversionAccountInReturn." ++
    "ConversionAccount.DepositTransactionAmount", 11)], none, none⟩)]
  clock := fun _ => "20240131"

/-- The variables of a job that books a returned payment. There is a quote in the date, and the
correlation id has the placeholder in it. -/
def Variables.returning : Variables :=
  .ofList
    [("tenantIdentifier", .text "t"), ("paymentScheme", .text "S"),
     ("internalCorrelationId", .text "$.resourceId"), ("transactionDate", .text "\""),
     ("amount", .text "12.50"), ("conversionAccountAmsId", .ofInt64 (-7)),
     ("pacs004", .text "\x7b\"PmtRtr\":\x7b\"TxInf\":[1]\x7d\x7d")]

/-- A ledger with the account of that job. -/
def Ledger.returning : Ledger :=
  { Ledger.empty.openAccount "t" (-7) ((Decimal.read? "-13.00").getD .zero) with next := 41 }

/-- A job that books a returned payment whose correlation id is the placeholder. -/
def Job.referring : Job := ⟨1, "bookCreditedAmountToConversionAccountInReturn", .returning⟩

def Json.correlationId? (rows : List Json) : Option String :=
  rows.head?.bind fun row => (row.member? "internal_correlation_id").bind asText?

namespace Worker

/-- That job is completed, and its detail shows the number of the transaction for the id. -/
private theorem submit_referring :
    ∃ plan l' output, BookingStage.conversionReturn.plan .returning .returning = .ok plan ∧
      plan.submit .returning .returning Job.referring.vars = (l', .ok output) ∧
      Json.correlationId? ((l'.bookOf plan.outline.tenant.name).details.map Detail.columns) =
        some "41" ∧
      Json.correlationId? ((Ledger.returning.bookOf plan.outline.tenant.name).details.map
        Detail.columns ++ plan.postings.map fun q =>
          .ofMembers ((plan.outline.statement.columns q).map fun c => (c.1, .text c.2))) =
        some "$.resourceId" := by
  have hdone : (BookingStage.conversionReturn.plan .returning .returning).toOption.any fun plan =>
      (plan.submit .returning .returning Job.referring.vars).2.toOption.any fun _ =>
        Json.correlationId?
          (((plan.submit .returning .returning Job.referring.vars).1.bookOf
            plan.outline.tenant.name).details.map Detail.columns) = some "41" ∧
        Json.correlationId? ((Ledger.returning.bookOf plan.outline.tenant.name).details.map
          Detail.columns ++ plan.postings.map fun q =>
            .ofMembers ((plan.outline.statement.columns q).map fun c => (c.1, .text c.2))) =
          some "$.resourceId" := by
    decide +kernel
  obtain ⟨plan, hplan, hdone⟩ := (Option.any_eq_true _ _).1 hdone
  obtain ⟨l', output, hsubmit, hdone⟩ := exists_of_snd_any hdone
  rw [hsubmit] at hdone
  exact ⟨plan, l', output, toOption_eq_some_iff.1 hplan, hsubmit, of_decide_eq_true hdone⟩

theorem handle_details_referring :
    Environment.returning.settings.Addressable ∧
      Job.referring.type = BookingStage.conversionReturn.jobType ∧
      ∃ l' output plan context,
        handle .returning .returning .referring = (l', .ok (.completed output)) ∧
        BookingStage.conversionReturn.plan .returning Job.referring.vars = .ok plan ∧
        BookingStage.conversionReturn.Describes Job.referring.vars plan.outline.statement ∧
        (l'.bookOf context).details = (Ledger.returning.bookOf context).details ++
          plan.postings.mapIdx (fun i q => ⟨41 + i, "dt_savings_transaction_details",
            .ofMembers ((plan.outline.statement.columns q).map fun c =>
              (c.1, .text (Json.fill (41 + i) c.2)))⟩) := by
  obtain ⟨plan, l', output, hplan, hsubmit, -⟩ := submit_referring
  have htype : Job.referring.type = BookingStage.conversionReturn.jobType := rfl
  have hhandle := (handle_eq_completed_iff htype).2 ⟨plan, hplan, hsubmit⟩
  obtain ⟨booked, context, movements, hbooked, -, hdescribes, -, hdetails, -⟩ :=
    handle_details LedgerSettings.addressable_standard htype hhandle
  exact ⟨LedgerSettings.addressable_standard, htype, l', output, booked, context.tenant, hhandle,
    hbooked, hdescribes, hdetails⟩

/-- Not all details keep the texts of the statement as they are. -/
theorem details_not_verbatim :
    ¬∀ (env : Environment) (l l' : Ledger) (job : Job) (stage : BookingStage) (plan : Plan)
      (output : Variables), env.settings = .standard → job.type = stage.jobType →
      stage.plan env job.vars = .ok plan → handle env l job = (l', .ok (.completed output)) →
        (l'.bookOf plan.outline.tenant.name).details.map Detail.columns =
          (l.bookOf plan.outline.tenant.name).details.map Detail.columns ++
            plan.postings.map fun q =>
              .ofMembers ((plan.outline.statement.columns q).map fun c => (c.1, .text c.2)) := by
  intro hverbatim
  obtain ⟨plan, l', output, hplan, hsubmit, hkept, hplanned⟩ := submit_referring
  have htype : Job.referring.type = BookingStage.conversionReturn.jobType := rfl
  have hhandle := (handle_eq_completed_iff htype).2 ⟨plan, hplan, hsubmit⟩
  rw [hverbatim .returning .returning l' .referring .conversionReturn plan output rfl htype hplan
    hhandle, hplanned] at hkept
  simp at hkept

end Worker

end PaymentBooking
