import PaymentBooking.Proofs.Booking.Transfer
import PaymentBooking.Proofs.Job.Atomicity

/-! # What a booking job does to the balances

As long as no sum has to be rounded, a job that can be planned is completed exactly if the accounts
of its transfer are open and the one withdrawn from holds amount and fee. Then the transfer has been
made and nothing else has happened; otherwise the ledger refuses for that reason and is as before.
-/

namespace PaymentBooking

namespace Plan

variable {env : Environment} {l : Ledger} {b : Book} {t : Transfer} {k : ℕ}

/-- A plan whose transfer is covered is accepted, and the book of its tenant is one on which the
transfer has been made. -/
theorem submit_of_covered (plan : Plan) (hsettings : env.settings.Addressable)
    (hbook : l.books.find? plan.outline.tenant.name = some b)
    (hroom : l.HasRoom plan.postings.length)
    (hlegs : t.Splits (plan.postings.map Posting.leg)) (hfits : t.Fits k b.balances)
    (hcovered : t.Covered b.balances) (vars : Variables) :
    ∃ b' next, plan.submit env l vars =
        (⟨l.books.insert plan.outline.tenant.name b', next⟩, .ok (plan.output vars)) ∧
      t.Made b.balances b'.balances ∧ b'.ibans = b.ibans := by
  obtain ⟨balances, hmoved, hmade⟩ := Transfer.moveAll_of_covered 0 hlegs hfits hcovered
  have hagree := Progress.settleAll_agree env.settings plan.outline.statement 0 ⟨b, l.next, []⟩
    plan.postings
  rw [hmoved] at hagree
  obtain ⟨r, hr, rfl, hibans⟩ := hagree.eq_ok
  refine ⟨r.book, r.next, ?_, hmade, hibans⟩
  rw [submit_eq_settleAll hsettings hbook hroom, hr]

theorem submit_of_not_covered (plan : Plan) (hsettings : env.settings.Addressable)
    (hbook : l.books.find? plan.outline.tenant.name = some b)
    (hroom : l.HasRoom plan.postings.length)
    (hlegs : t.Splits (plan.postings.map Posting.leg)) (hfits : t.Fits k b.balances)
    (hcovered : ¬t.Covered b.balances) (vars : Variables) :
    ∃ i refusal, plan.submit env l vars = (l, .error (.error (.refused i refusal))) ∧
      t.IsRefusal b.balances refusal := by
  obtain ⟨i, refusal, herror, hrefusal⟩ := Transfer.moveAll_of_not_covered 0 hlegs hfits hcovered
  have hagree := Progress.settleAll_agree env.settings plan.outline.statement 0 ⟨b, l.next, []⟩
    plan.postings
  rw [herror] at hagree
  refine ⟨i, refusal, ?_, hrefusal⟩
  rw [submit_eq_settleAll hsettings hbook hroom, hagree.eq_error]

end Plan

namespace Worker

/-- A booking for a tenant that has a book is handled by settling its postings on that book. -/
theorem handle_of_settleAll {env : Environment} {l : Ledger} {job : Job} {stage : BookingStage}
    {plan : Plan} {b : Book} (hsettings : env.settings.Addressable)
    (htype : job.type = stage.jobType) (hplan : stage.plan env job.vars = .ok plan)
    (hbook : l.books.find? plan.outline.tenant.name = some b)
    (hroom : l.HasRoom plan.postings.length) :
    handle env l job =
      match Progress.settleAll env.settings plan.outline.statement 0 ⟨b, l.next, []⟩
        plan.postings with
      | .ok p => (⟨l.books.insert plan.outline.tenant.name p.book, p.next⟩,
          .ok (.completed (plan.output job.vars)))
      | .error failure => (l, Outcome.ofResult stage.failureSignal (.error failure)) := by
  rw [handle_of_plan htype hplan, plan.submit_eq_settleAll hsettings hbook hroom]
  cases Progress.settleAll env.settings plan.outline.statement 0 ⟨b, l.next, []⟩ plan.postings <;>
    rfl

/-- A booking job is completed exactly if the accounts that it names are open and the one that it
withdraws from holds amount and fee. Completed, it has moved amount and fee, on these accounts and
on no others, in the book of its tenant and in no other; refused, it has changed nothing. There have
to be numbers left for its transactions. -/
theorem handle_transfer {env : Environment} {l : Ledger} {job : Job} {stage : BookingStage}
    {plan : Plan} (hsettings : env.settings.Addressable) (htype : job.type = stage.jobType)
    (hplan : stage.plan env job.vars = .ok plan)
    (hroom : l.HasRoom plan.postings.length) :
    ∃ t, stage.Transfers env.directory job.vars t ∧
      ∀ b k, l.books.find? t.tenant = some b → t.Fits k b.balances →
        ((∃ l' output, handle env l job = (l', .ok (.completed output))) ↔
          t.Covered b.balances) ∧
        (∀ l' output, handle env l job = (l', .ok (.completed output)) →
          (∃ b', l'.books.find? t.tenant = some b' ∧ t.Made b.balances b'.balances ∧
            b'.ibans = b.ibans) ∧
          ∀ other ≠ t.tenant, l'.books.find? other = l.books.find? other) ∧
        (¬t.Covered b.balances → ∃ i refusal, t.IsRefusal b.balances refusal ∧
          handle env l job = (l, .ok (.ofError stage.failureSignal (.refused i refusal)))) := by
  obtain ⟨t, ht, htenant, hlegs⟩ := BookingStage.transfers_of_plan hplan
  refine ⟨t, ht, fun b k hb hfits => ?_⟩
  have hbook : l.books.find? plan.outline.tenant.name = some b := htenant ▸ hb
  rw [handle_of_plan htype hplan]
  by_cases hcovered : t.Covered b.balances
  · obtain ⟨b', next, hsubmit, hmade, hibans⟩ :=
      plan.submit_of_covered hsettings hbook hroom hlegs hfits hcovered job.vars
    rw [hsubmit, ← htenant]
    refine ⟨⟨fun _ => hcovered, fun _ => ⟨_, _, rfl⟩⟩, ?_, fun hnot => absurd hcovered hnot⟩
    rintro l' output hcompleted
    cases hcompleted
    exact ⟨⟨b', Dict.find?_insert_self .., hmade, hibans⟩,
      fun other hne => Dict.find?_insert_of_ne _ hne _⟩
  · obtain ⟨i, refusal, hsubmit, hrefusal⟩ :=
      plan.submit_of_not_covered hsettings hbook hroom hlegs hfits hcovered job.vars
    rw [hsubmit]
    refine ⟨⟨?_, fun h => absurd h hcovered⟩, nofun, fun _ => ⟨i, refusal, hrefusal, rfl⟩⟩
    rintro ⟨l', output, hcompleted⟩
    cases hcompleted

end Worker

/-- A job that undoes a payment with a fee. -/
def Job.reverting : Job := ⟨1, "revertInAms", .reverting⟩

def Transfer.reverting : Transfer where
  tenant := "t"
  amount := ⟨(Decimal.read? "100.00").getD .zero, by decide +kernel⟩
  fee := ⟨(Decimal.read? "2.5").getD .zero, by decide +kernel⟩
  source := some 11
  target := some 12

theorem Worker.handle_transfer_reverting :
    ∃ plan b l' output b',
      BookingStage.revert.plan .reverting Job.reverting.vars = .ok plan ∧
      Ledger.reverting.HasRoom plan.postings.length ∧
      BookingStage.revert.Transfers Environment.reverting.directory Job.reverting.vars .reverting ∧
      Ledger.reverting.books.find? "t" = some b ∧ Transfer.reverting.Fits 3 b.balances ∧
      Transfer.reverting.Covered b.balances ∧
      handle .reverting .reverting .reverting = (l', .ok (.completed output)) ∧
      l'.books.find? "t" = some b' ∧ Transfer.reverting.Made b.balances b'.balances := by
  obtain ⟨plan, hplan, hlength⟩ := BookingStage.plan_reverting
  have hroom : Ledger.reverting.HasRoom plan.postings.length := by
    rw [hlength]
    decide
  have hsettings : Environment.reverting.settings.Addressable :=
    LedgerSettings.addressable_standard
  have htype : Job.reverting.type = BookingStage.revert.jobType := rfl
  obtain ⟨t, ht, heffect⟩ := handle_transfer hsettings htype hplan hroom
  have hsame : t = .reverting := by
    have hrequest : (RevertRequest.read Variables.reverting).toOption.any fun r =>
        r.context.tenant = "t" ∧ r.amount = Transfer.reverting.amount ∧
          r.fee = Transfer.reverting.fee ∧ r.conversionAccount = 11 ∧ r.disposalAccount = 12 := by
      decide +kernel
    obtain ⟨r, hr, hfields⟩ := (Option.any_eq_true _ _).1 hrequest
    obtain ⟨htenant, hamount, hfee, hconversion, hdisposal⟩ := of_decide_eq_true hfields
    cases ht with
    | conversionCredit hstage hread => exact absurd hstage (by decide)
    | revert hstage hread =>
      cases (toOption_eq_some_iff.1 hr).symm.trans hread
      rw [htenant, hamount, hfee, hconversion, hdisposal]
      rfl
  subst hsame
  obtain ⟨b, hbook⟩ : ∃ b, Ledger.reverting.books.find? "t" = some b :=
    ⟨_, Dict.find?_insert_self ..⟩
  have hb : Ledger.reverting.bookOf "t" = b := Ledger.bookOf_of_find? hbook
  have hfits : Transfer.reverting.Fits 3 b.balances := by
    subst hb
    constructor <;> decide +kernel
  have hcovered : Transfer.reverting.Covered b.balances := by
    subst hb
    have hopen : Transfer.reverting.accounts.all fun c =>
        ((Ledger.reverting.bookOf "t").balances.find? c).isSome := by
      decide +kernel
    have hholds : ∀ x ∈ (Ledger.reverting.bookOf "t").balances.find? 11,
        Transfer.reverting.total ≤ x.toRat := by
      decide +kernel
    refine ⟨fun c hc => ?_, fun c hc x hx => ?_⟩
    · exact Option.isSome_iff_exists.1 (List.all_eq_true.1 hopen c hc)
    · cases hc
      exact hholds x hx
  obtain ⟨hiff, hmade, -⟩ := heffect _ 3 hbook hfits
  obtain ⟨l', output, hhandle⟩ := hiff.2 hcovered
  obtain ⟨⟨b', hb', hb'', -⟩, -⟩ := hmade l' output hhandle
  exact ⟨plan, _, l', output, b', hplan, hroom, ht, hbook, hfits, hcovered, hhandle, hb', hb''⟩

end PaymentBooking
