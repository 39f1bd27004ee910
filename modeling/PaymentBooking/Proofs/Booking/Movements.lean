import PaymentBooking.Proofs.Booking.Outline
import PaymentBooking.Proofs.Booking.Settlement
import PaymentBooking.Proofs.Decimal.Value

/-! # The movements of every stage

What each stage moves on which account, in which order, under which key and with which purpose, and
that a plan asks the ledger for exactly these movements: each of them as one transaction and, right
behind it, one detail that depends on it.
-/

namespace PaymentBooking

/-- One movement of money, with the text of the key under which its payment type is configured. -/
structure Movement where
  account : Int64
  action : LedgerAction
  amount : Decimal
  key : String
  purpose : Option String

namespace Movement

/-- The movement of a fee, if one is charged. -/
def ofFee (fee : Fee) (m : Decimal → Movement) : List Movement :=
  if 0 < fee.value.toRat then [m fee.value] else []

/-- The first request of a movement: a command to its account, which carries the amount and the
payment type of its key. -/
structure IsTransaction (settings : LedgerSettings) (ids : Dict String Int64) (m : Movement)
    (i : BatchItem) : Prop where
  address : i.address =
    settings.relativeBase ++ toString m.account ++ "/transactions?command=" ++ m.action.command
  independent : i.dependent = false
  body : ∃ body id, Json.parse? i.body = some body ∧
    (body.member? "transactionAmount").bind Reading.decimal? = some m.amount ∧
    ids.find? m.key = some id ∧ body.member? "paymentTypeId" = some (.ofInt64 id)

/-- The second request of a movement: a row about the resource before it, with the purpose of the
movement if there is one. -/
structure IsDetail (settings : LedgerSettings) (m : Movement) (i : BatchItem) : Prop where
  address : i.address = "datatables/" ++ settings.detailTable ++ "/$.resourceId"
  dependent : i.dependent = true
  body : ∃ body, Json.parse? i.body = some body ∧
    body.member? "category_purpose_code" = m.purpose.map .text

/-- Requests that ask for movements in their order and for nothing else. -/
inductive Requested (settings : LedgerSettings) (ids : Dict String Int64) :
    List Movement → List BatchItem → Prop
  | nil : Requested settings ids [] []
  | cons {m : Movement} {ms : List Movement} {i j : BatchItem} {items : List BatchItem}
      (htransaction : m.IsTransaction settings ids i) (hdetail : m.IsDetail settings j)
      (hrest : Requested settings ids ms items) : Requested settings ids (m :: ms) (i :: j :: items)

end Movement

/-- What a stage moves for a job, given the request that it reads from the variables. -/
inductive BookingStage.Moves (directory : TenantDirectory) (vars : Variables) :
    BookingStage → BookingContext → List Movement → Prop
  /-- The amount leaves the technical account of the case. -/
  | technicalCredit {r : TechnicalCreditRequest} {accounts : Dict String Int64} {account : Int64}
      (hread : TechnicalCreditRequest.read vars = .ok r)
      (haccounts : directory.technicalAccounts.find? r.context.tenant = some accounts)
      (haccount : accounts.find? (r.context.scheme ++ "." ++ r.case) = some account) :
      Moves directory vars .technicalCredit r.context
        [⟨account, .withdrawal, r.amount.value,
          r.context.scheme ++ ".bookCreditedAmountFromTechnicalAccount." ++ r.case ++
            ".WithdrawTransactionAmount", r.context.purpose⟩]
  /-- The amount reaches the conversion account. -/
  | conversionCredit {r : ConversionCreditRequest}
      (hread : ConversionCreditRequest.read vars = .ok r) :
      Moves directory vars .conversionCredit r.context
        [⟨r.conversionAccount, .deposit, r.amount.value,
          r.context.scheme ++ ".bookCreditedAmountToConversionAccount.ConversionAccount." ++
            "DepositTransactionAmount", r.context.purpose⟩]
  | conversionRecall {r : ConversionCreditRequest}
      (hread : ConversionCreditRequest.read vars = .ok r) :
      Moves directory vars .conversionRecall r.context
        [⟨r.conversionAccount, .deposit, r.amount.value,
          r.context.scheme ++ ".bookCreditedAmountToConversionAccountInRecall." ++
            "ConversionAccount.DepositTransactionAmount", r.context.purpose⟩]
  | conversionReturn {r : ConversionCreditRequest}
      (hread : ConversionCreditRequest.read vars = .ok r) :
      Moves directory vars .conversionReturn r.context
        [⟨r.conversionAccount, .deposit, r.amount.value,
          r.context.scheme ++ ".bookCreditedAmountToConversionAccountInReturn." ++
            "ConversionAccount.DepositTransactionAmount", r.context.purpose⟩]
  /-- Amount and fee leave the conversion account, the fee with a purpose of its own. -/
  | conversionDebit {r : ConversionDebitRequest}
      (hread : ConversionDebitRequest.read vars = .ok r) :
      Moves directory vars .conversionDebit r.context
        (⟨r.conversionAccount, .withdrawal, r.amount.value,
          r.context.scheme ++ ".bookOnConversionAccountInAms.ConversionAccount." ++
            "WithdrawTransactionAmount", r.context.purpose⟩ ::
          Movement.ofFee r.fee fun fee => ⟨r.conversionAccount, .withdrawal, fee,
            r.context.scheme ++ ".bookOnConversionAccountInAms.ConversionAccount." ++
              "WithdrawTransactionFee", r.feePurpose⟩)
  /-- Amount and fee go from the conversion to the disposal account, the fee with a purpose of its
  own. -/
  | revert {r : RevertRequest} (hread : RevertRequest.read vars = .ok r) :
      Moves directory vars .revert r.context
        (⟨r.conversionAccount, .withdrawal, r.amount.value, r.context.scheme ++
            ".revertInAms.ConversionAccount.WithdrawTransactionAmount", r.context.purpose⟩ ::
          (Movement.ofFee r.fee fun fee => ⟨r.conversionAccount, .withdrawal, fee,
            r.context.scheme ++ ".revertInAms.ConversionAccount.WithdrawTransactionFee",
            r.feePurpose⟩) ++
          ⟨r.disposalAccount, .deposit, r.amount.value, r.context.scheme ++
            ".revertInAms.DisposalAccount.DepositTransactionAmount", r.context.purpose⟩ ::
          Movement.ofFee r.fee fun fee => ⟨r.disposalAccount, .deposit, fee,
            r.context.scheme ++ ".revertInAms.DisposalAccount.DepositTransactionFee",
            r.feePurpose⟩)
  /-- The same under the same keys, and the fee goes by the purpose of the payment. -/
  | revertWithoutFee {r : RevertRequest} (hread : RevertRequest.read vars = .ok r) :
      Moves directory vars .revertWithoutFee r.context
        (⟨r.conversionAccount, .withdrawal, r.amount.value, r.context.scheme ++
            ".revertInAms.ConversionAccount.WithdrawTransactionAmount", r.context.purpose⟩ ::
          (Movement.ofFee r.fee fun fee => ⟨r.conversionAccount, .withdrawal, fee,
            r.context.scheme ++ ".revertInAms.ConversionAccount.WithdrawTransactionFee",
            r.context.purpose⟩) ++
          ⟨r.disposalAccount, .deposit, r.amount.value, r.context.scheme ++
            ".revertInAms.DisposalAccount.DepositTransactionAmount", r.context.purpose⟩ ::
          Movement.ofFee r.fee fun fee => ⟨r.disposalAccount, .deposit, fee,
            r.context.scheme ++ ".revertInAms.DisposalAccount.DepositTransactionFee",
            r.context.purpose⟩)
  /-- The amount goes from the conversion to the disposal account, under the keys of a revert. -/
  | disposalDeposit {r : DisposalDepositRequest}
      (hread : DisposalDepositRequest.read vars = .ok r) :
      Moves directory vars .disposalDeposit r.context
        [⟨r.conversionAccount, .withdrawal, r.amount.value, r.context.scheme ++
            ".revertInAms.ConversionAccount.WithdrawTransactionAmount", r.context.purpose⟩,
          ⟨r.disposalAccount, .deposit, r.amount.value, r.context.scheme ++
            ".revertInAms.DisposalAccount.DepositTransactionAmount", r.context.purpose⟩]

/-! ## From legs to movements -/

namespace Leg

/-- The movement of a leg of a stage. -/
def movement (scheme : String) (stage : BookingStage) (l : Leg) : Movement :=
  ⟨l.account, l.action, l.amount.value, (l.key scheme stage).text, l.purpose⟩

theorem movement_withFee (scheme : String) (stage : BookingStage) (account : Int64)
    (role : AccountRole) (action : LedgerAction) (amount : Amount) (purpose : Option String)
    (fee : Fee) (feePurpose : Option String) :
    (withFee account role action amount purpose fee.chargeable feePurpose).map
        (movement scheme stage) =
      ⟨account, action, amount.value,
          (OperationKey.mk scheme stage.configured.jobType role.segment
            (actionSegment action .amount)).text, purpose⟩ ::
        Movement.ofFee fee fun f => ⟨account, action, f,
          (OperationKey.mk scheme stage.configured.jobType role.segment
            (actionSegment action .fee)).text, feePurpose⟩ := by
  by_cases hfee : fee.value.isPositive
  · have hpos : 0 < fee.value.toRat := (Decimal.isPositive_iff _).1 hfee
    simp [withFee, movement, key, Fee.chargeable, Movement.ofFee, hfee, hpos]
  · have hpos : ¬0 < fee.value.toRat := fun h => hfee ((Decimal.isPositive_iff _).2 h)
    simp [withFee, movement, key, Fee.chargeable, Movement.ofFee, hfee, hpos]

end Leg

section Keys

-- The segments of every key are known, so that its text is that of the table.
attribute [local simp] OperationKey.text BookingStage.configured BookingStage.jobType
  AccountRole.segment actionSegment LedgerAction.verb LegPart.segment String.append_assoc

theorem BookingStage.moves_of_outline {stage : BookingStage} {env : Environment} {vars : Variables}
    {o : Outline} (h : stage.outline env vars = .ok o) :
    ∃ context, env.directory.resolve context.tenant = .ok o.tenant ∧
      stage.Moves env.directory vars context (o.legs.map (Leg.movement o.scheme o.stage)) := by
  cases outline_eq_ok_iff.1 h with
  | technicalCredit hread h =>
    obtain ⟨tenant, id, account, entry, htenant, -, haccount, -, rfl⟩ :=
      TechnicalCreditRequest.outline_eq_ok_iff.1 h
    obtain ⟨accounts, haccounts, hfind⟩ := Tenant.technicalAccount_eq_ok_iff.1 haccount
    rw [(TenantDirectory.resolve_eq_ok htenant).2.2] at haccounts
    refine ⟨_, htenant, ?_⟩
    simpa [Leg.movement, Leg.key] using Moves.technicalCredit hread haccounts hfind
  | conversionCredit hstage hread h =>
    obtain ⟨tenant, id, entry, htenant, -, -, rfl⟩ :=
      ConversionCreditRequest.outline_eq_ok_iff.1 h
    refine ⟨_, htenant, ?_⟩
    simp only [List.mem_cons, List.not_mem_nil, or_false] at hstage
    rcases hstage with rfl | rfl | rfl
    · simpa [Leg.movement, Leg.key] using Moves.conversionCredit hread
    · simpa [Leg.movement, Leg.key] using Moves.conversionRecall hread
    · simpa [Leg.movement, Leg.key] using Moves.conversionReturn hread
  | conversionDebit hread h =>
    obtain ⟨tenant, id, entry, htenant, -, -, rfl⟩ :=
      ConversionDebitRequest.outline_eq_ok_iff.1 h
    refine ⟨_, htenant, ?_⟩
    simpa [Leg.movement_withFee] using Moves.conversionDebit hread
  | revert hstage hread h =>
    obtain ⟨tenant, id, date, resolved, entry, htenant, -, -, -, rfl⟩ :=
      RevertRequest.outline_eq_ok_iff.1 h
    refine ⟨_, htenant, ?_⟩
    simp only [List.mem_cons, List.not_mem_nil, or_false] at hstage
    rcases hstage with rfl | rfl
    · simpa [Leg.undone, LedgerAction.inverse, Leg.movement_withFee] using Moves.revert hread
    · simpa [Leg.undone, LedgerAction.inverse, Leg.movement_withFee]
        using Moves.revertWithoutFee hread
  | disposalDeposit hread h =>
    obtain ⟨tenant, id, resolvedId, date, resolvedDate, entry, htenant, -, -, -, rfl⟩ :=
      DisposalDepositRequest.outline_eq_ok_iff.1 h
    refine ⟨_, htenant, ?_⟩
    simpa [Leg.undone, LedgerAction.inverse, Leg.withFee, Leg.movement, Leg.key]
      using Moves.disposalDeposit hread

end Keys

/-! ## From postings to requests -/

namespace Statement

theorem nodup_columns (s : Statement) (q : Posting) : ((s.columns q).map Prod.fst).Nodup := by
  have hsublist : ∀ cs : List (String × Option String),
      ((cs.filterMap fun c => c.2.map fun v => (c.1, v)).map Prod.fst).Sublist
        (cs.map Prod.fst) := by
    intro cs
    induction cs with
    | nil => exact .slnil
    | cons c cs ih =>
      obtain ⟨name, value⟩ := c
      cases value with
      | none => exact ih.cons name
      | some v => exact ih.cons_cons name
  apply (hsublist _).nodup
  simp

/-- The row of a detail shows its columns, and nothing else. -/
theorem parse?_row (s : Statement) (q : Posting) :
    ∃ body, Json.parse? (s.row q).print = some body ∧
      ∀ name v, body.member? name = some v ↔ ∃ t, (name, t) ∈ s.columns q ∧ v = .text t := by
  have hreadable : ∀ m ∈ (s.columns q).map fun c => (c.1, Json.text c.2), m.2.IsReadable := by
    simp only [List.mem_map, forall_exists_index, and_imp]
    rintro m c - rfl
    exact Json.isReadable_text _
  have hnodup : (((s.columns q).map fun c => (c.1, Json.text c.2)).map Prod.fst).Nodup := by
    rw [List.map_map]
    exact s.nodup_columns q
  refine ⟨_, Json.parse?_print_object hreadable, fun name v => ?_⟩
  rw [Json.member?_ofMembers_eq_some_iff hnodup]
  simp [eq_comm]

theorem member?_of_row {s : Statement} {q : Posting} {body : Json} {name : String}
    {value : Option String}
    (hbody : ∀ v, body.member? name = some v ↔ ∃ t, (name, t) ∈ s.columns q ∧ v = .text t)
    (hcolumn : ∀ t, (name, t) ∈ s.columns q ↔ value = some t) :
    body.member? name = value.map .text := by
  ext v
  simp [hbody, hcolumn, eq_comm]

end Statement

namespace Posting

variable {settings : LedgerSettings} {date : String} {statement : Statement}

theorem isTransaction_transactionItem {q : Posting} {ids : Dict String Int64} {scheme : String}
    {stage : BookingStage} (hid : ids.find? (q.leg.key scheme stage).text = some q.paymentType) :
    (q.leg.movement scheme stage).IsTransaction settings ids (q.transactionItem settings date) := by
  obtain ⟨body, hparse, -, hamount, hpaymentType⟩ := parse?_transactionBody settings date q
  refine ⟨rfl, rfl, body, q.paymentType, hparse, ?_, hid, hpaymentType⟩
  rw [hamount, Option.bind_some]
  exact Decimal.read?_text_of_isPositive q.leg.amount.positive

theorem isDetail_detailItem (q : Posting) (scheme : String) (stage : BookingStage) :
    (q.leg.movement scheme stage).IsDetail settings (q.detailItem settings statement) where
  address := by simp [detailItem, Address.ofDetail, resourcePlaceholder, String.append_assoc]
  dependent := rfl
  body := by
    obtain ⟨body, hparse, hbody⟩ := statement.parse?_row q
    exact ⟨body, hparse, Statement.member?_of_row (hbody _)
      (by simp [Statement.columns, Leg.movement])⟩

/-- The requests of postings ask for the movements of their legs. -/
theorem requested_items {ids : Dict String Int64} {scheme : String} {stage : BookingStage}
    {qs : List Posting}
    (hids : ∀ q ∈ qs, ids.find? (q.leg.key scheme stage).text = some q.paymentType) :
    Movement.Requested settings ids (qs.map fun q => q.leg.movement scheme stage)
      (qs.flatMap (Posting.items settings date statement)) := by
  induction qs with
  | nil => exact .nil
  | cons q qs ih =>
    have hrest := ih fun r hr => hids r (List.mem_cons_of_mem q hr)
    exact .cons (isTransaction_transactionItem (hids q List.mem_cons_self))
      (q.isDetail_detailItem scheme stage) hrest

end Posting

/-- The postings of a plan are the legs of its outline, with the payment types of their keys. -/
theorem Outline.legs_of_plan {o : Outline} {plan : Plan} (h : o.plan = .ok plan) :
    plan.outline = o ∧ o.legs = plan.postings.map Posting.leg ∧
      ∀ q ∈ plan.postings,
        o.tenant.tables.paymentTypes.find? (q.leg.key o.scheme o.stage).text =
          some q.paymentType := by
  obtain ⟨houtline, hall⟩ := plan_eq_ok h
  refine ⟨houtline, ?_⟩
  generalize o.legs = legs, plan.postings = qs at hall
  induction hall with
  | nil => simp
  | cons hhead _ ih =>
    obtain ⟨rfl, hid⟩ := hhead
    simpa [ih.1.symm] using ⟨Tenant.paymentType_eq_ok_iff.1 hid, ih.2⟩

theorem Plan.length_items (plan : Plan) (settings : LedgerSettings) :
    (plan.batch settings).items.length = 2 * plan.postings.length := by
  rw [batch, List.length_flatMap]
  simp [Posting.items, Nat.mul_comm]

/-- A plan asks the ledger for the movements of its stage, for the tenant that the request names:
for each of them one transaction and one detail behind it, in their order, and nothing else. -/
theorem BookingStage.requested_of_plan {stage : BookingStage} {env : Environment}
    {vars : Variables} {plan : Plan} (hplan : stage.plan env vars = .ok plan) :
    ∃ context movements ids, stage.Moves env.directory vars context movements ∧
      env.directory.paymentTypes.find? context.tenant = some ids ∧
      (plan.batch env.settings).tenant = context.tenant ∧
      Movement.Requested env.settings ids movements (plan.batch env.settings).items := by
  obtain ⟨o, houtline, ho⟩ := bind_eq_ok_iff.1 hplan
  obtain ⟨context, htenant, hmoves⟩ := moves_of_outline houtline
  obtain ⟨hname, hids, -⟩ := TenantDirectory.resolve_eq_ok htenant
  obtain ⟨rfl, hlegs, hpaymentTypes⟩ := Outline.legs_of_plan ho
  rw [hlegs, List.map_map] at hmoves
  exact ⟨context, _, _, hmoves, hids, hname, Posting.requested_items hpaymentTypes⟩

theorem BookingStage.requested_reverting :
    ∃ plan context movements ids,
      BookingStage.revert.plan .reverting .reverting = .ok plan ∧
      (plan.batch Environment.reverting.settings).items.length = 8 ∧
      BookingStage.revert.Moves Environment.reverting.directory .reverting context movements ∧
      Environment.reverting.directory.paymentTypes.find? context.tenant = some ids ∧
      (plan.batch Environment.reverting.settings).tenant = context.tenant ∧
      Movement.Requested Environment.reverting.settings ids movements
        (plan.batch Environment.reverting.settings).items := by
  obtain ⟨plan, hplan, hlength⟩ := plan_reverting
  have hitems : (plan.batch Environment.reverting.settings).items.length = 8 := by
    rw [plan.length_items, hlength]
  obtain ⟨context, movements, ids, hmoves⟩ := requested_of_plan hplan
  exact ⟨plan, context, movements, ids, hplan, hitems, hmoves⟩

end PaymentBooking
