import PaymentBooking.Proofs.Booking.Balances
import PaymentBooking.Proofs.Booking.Movements

/-! # The transfer that a booking makes

Whatever its stage, a booking takes an amount and a fee from one account, brings them to another, or
does both. It can be made exactly if the accounts are open and the one withdrawn from covers the
sum, and then it moves exactly that sum, also from an account to itself.
-/

namespace PaymentBooking

def Fee.free : Fee := ⟨.zero, by decide⟩

/-- An amount and a fee on their way from one account to another, either of which may be out of the
ledger's sight. -/
structure Transfer where
  tenant : String
  amount : Amount
  fee : Fee
  source : Option Int64
  target : Option Int64

/-- The transfer of a stage, given the request that it reads from the variables. -/
inductive BookingStage.Transfers (directory : TenantDirectory) (vars : Variables) :
    BookingStage → Transfer → Prop
  | technicalCredit {r : TechnicalCreditRequest} {accounts : Dict String Int64} {account : Int64}
      (hread : TechnicalCreditRequest.read vars = .ok r)
      (haccounts : directory.technicalAccounts.find? r.context.tenant = some accounts)
      (haccount : accounts.find? (r.context.scheme ++ "." ++ r.case) = some account) :
      Transfers directory vars .technicalCredit
        ⟨r.context.tenant, r.amount, .free, some account, none⟩
  | conversionCredit {stage : BookingStage} {r : ConversionCreditRequest}
      (hstage : stage ∈ [.conversionCredit, .conversionRecall, .conversionReturn])
      (hread : ConversionCreditRequest.read vars = .ok r) :
      Transfers directory vars stage
        ⟨r.context.tenant, r.amount, .free, none, some r.conversionAccount⟩
  | conversionDebit {r : ConversionDebitRequest}
      (hread : ConversionDebitRequest.read vars = .ok r) :
      Transfers directory vars .conversionDebit
        ⟨r.context.tenant, r.amount, r.fee, some r.conversionAccount, none⟩
  | revert {stage : BookingStage} {r : RevertRequest}
      (hstage : stage ∈ [.revert, .revertWithoutFee]) (hread : RevertRequest.read vars = .ok r) :
      Transfers directory vars stage
        ⟨r.context.tenant, r.amount, r.fee, some r.conversionAccount, some r.disposalAccount⟩
  | disposalDeposit {r : DisposalDepositRequest}
      (hread : DisposalDepositRequest.read vars = .ok r) :
      Transfers directory vars .disposalDeposit
        ⟨r.context.tenant, r.amount, .free, some r.conversionAccount, some r.disposalAccount⟩

namespace Transfer

def total (t : Transfer) : ℚ := t.amount.value.toRat + t.fee.value.toRat

/-- The accounts that are booked on, each once. -/
def accounts (t : Transfer) : List Int64 := (t.source.toList ++ t.target.toList).dedup

def balances (t : Transfer) (b : Dict Int64 Decimal) : List Decimal := t.accounts.filterMap b.find?

/-- Nothing has to be rounded: with at most `k` digits behind every point, all sums are in range. -/
structure Fits (t : Transfer) (k : ℕ) (b : Dict Int64 Decimal) : Prop where
  amount : t.amount.value.scale ≤ k
  fee : t.fee.value.scale ≤ k
  balances : ∀ x ∈ t.balances b, x.scale ≤ k
  sum : (t.total + ((t.balances b).map fun x => |x.toRat|).sum) * 10 ^ k < 2 ^ 96

/-- All accounts are open, and the one withdrawn from holds amount and fee. -/
structure Covered (t : Transfer) (b : Dict Int64 Decimal) : Prop where
  isOpen : ∀ c ∈ t.accounts, ∃ x, b.find? c = some x
  holds : ∀ c ∈ t.source, ∀ x, b.find? c = some x → t.total ≤ x.toRat

/-- What the transfer adds to the balance of an account. -/
def change (t : Transfer) (account : Int64) : ℚ :=
  (if t.target = some account then t.total else 0) - if t.source = some account then t.total else 0

/-- The transfer has been made, and nothing else has happened to the balances. -/
structure Made (t : Transfer) (b b' : Dict Int64 Decimal) : Prop where
  moved : ∀ account x, b.find? account = some x →
    ∃ y, b'.find? account = some y ∧ y.toRat = x.toRat + t.change account
  others : ∀ account, account ∉ t.accounts → b'.find? account = b.find? account

/-- The refusals that a transfer can meet. -/
def IsRefusal (t : Transfer) (b : Dict Int64 Decimal) (refusal : Refusal) : Prop :=
  ∃ c, (c ∈ t.accounts ∧ b.find? c = none ∧ refusal = .unknownAccount c) ∨
    (t.source = some c ∧ (∃ x, b.find? c = some x ∧ x.toRat < t.total) ∧
      refusal = .insufficientFunds c)

/-! ## One side -/

/-- The legs of one side of a transfer. -/
inductive Side (t : Transfer) (action : LedgerAction) : Option Int64 → List Leg → Prop
  | absent : Side t action none []
  | present (account : Int64) (role : AccountRole) (purpose feePurpose : Option String) :
      Side t action (some account)
        (Leg.withFee account role action t.amount purpose t.fee.chargeable feePurpose)

variable {t : Transfer} {action : LedgerAction} {account : Option Int64} {legs : List Leg} {k : ℕ}
  {b b' : Dict Int64 Decimal}

/-- Amount and fee together are the sum, whether or not the fee is charged. -/
theorem total_withFee (t : Transfer) (action : LedgerAction) (c : Int64) (role : AccountRole)
    (purpose feePurpose : Option String) :
    Leg.total (Leg.withFee c role action t.amount purpose t.fee.chargeable feePurpose) =
      t.total := by
  have hnonneg : ¬t.fee.value.toRat < 0 := by
    have hneg := t.fee.nonnegative
    rw [Decimal.isNegative, decide_eq_false_iff_not] at hneg
    rw [Decimal.toRat, div_lt_iff₀ (Decimal.pow_ten_pos _), zero_mul]
    exact_mod_cast hneg
  by_cases hfee : t.fee.value.isPositive
  · simp [Leg.withFee, Leg.total, Fee.chargeable, hfee, total]
  · have hzero : t.fee.value.toRat = 0 :=
      le_antisymm (not_lt.1 fun h => hfee ((Decimal.isPositive_iff _).2 h)) (not_lt.1 hnonneg)
    simp [Leg.withFee, Leg.total, Fee.chargeable, hfee, total, hzero]

theorem along_withFee (hamount : t.amount.value.scale ≤ k) (hfee : t.fee.value.scale ≤ k)
    (c : Int64) (role : AccountRole) (purpose feePurpose : Option String) :
    Leg.Along c action k
      (Leg.withFee c role action t.amount purpose t.fee.chargeable feePurpose) := by
  by_cases hcharged : t.fee.value.isPositive
  · simp [Leg.Along, Leg.withFee, Fee.chargeable, hcharged, hamount, hfee]
  · simp [Leg.Along, Leg.withFee, Fee.chargeable, hcharged, hamount]

theorem Side.length_le (hside : t.Side action account legs) : legs.length ≤ 2 := by
  cases hside with
  | absent => exact Nat.zero_le 2
  | present c role purpose feePurpose =>
    cases hfee : t.fee.chargeable <;> simp [Leg.withFee]

def Ready (t : Transfer) (action : LedgerAction) (account : Option Int64)
    (b : Dict Int64 Decimal) : Prop :=
  ∀ c ∈ account, ∃ x, b.find? c = some x ∧ (action = .withdrawal → t.total ≤ x.toRat)

def HasRoom (t : Transfer) (k : ℕ) (action : LedgerAction) (account : Option Int64)
    (b : Dict Int64 Decimal) : Prop :=
  ∀ c ∈ account, ∀ x, b.find? c = some x → x.scale ≤ k ∧ |x.toRat| * 10 ^ k < 2 ^ 96 ∧
    |x.toRat + action.signed t.total| * 10 ^ k < 2 ^ 96

/-- The balance of the account of a side, if there is one, has moved by a value. -/
structure Shift (account : Option Int64) (v : ℚ) (k : ℕ) (b b' : Dict Int64 Decimal) : Prop where
  moved : ∀ c ∈ account, Shifted c v k b b'
  others : ∀ c, account ≠ some c → b'.find? c = b.find? c

theorem Shift.find? {v : ℚ} (h : Shift account v k b b') {c : Int64} {x : Decimal}
    (hx : b.find? c = some x) :
    ∃ y, b'.find? c = some y ∧ y.toRat = x.toRat + if account = some c then v else 0 := by
  by_cases hc : account = some c
  · obtain ⟨y, hy, hval, -⟩ := (h.moved c hc).moved x hx
    exact ⟨y, hy, by rw [hval, if_pos hc]⟩
  · exact ⟨x, (h.others c hc).trans hx, by rw [if_neg hc, add_zero]⟩

theorem Side.moveAll_of_ready (index : Nat) (hside : t.Side action account legs)
    (hamount : t.amount.value.scale ≤ k) (hfee : t.fee.value.scale ≤ k)
    (hroom : t.HasRoom k action account b) (hready : t.Ready action account b) :
    ∃ b', Leg.moveAll index b legs = .ok b' ∧ Shift account (action.signed t.total) k b b' := by
  cases hside with
  | absent => exact ⟨b, rfl, by simp, fun _ _ => rfl⟩
  | present c role purpose feePurpose =>
    obtain ⟨x, hx, hcovered⟩ := hready c rfl
    obtain ⟨hscale, hbegin, hend⟩ := hroom c rfl x hx
    rw [← t.total_withFee action c role purpose feePurpose] at hend hcovered ⊢
    obtain ⟨b', hmove, hshifted⟩ := Leg.moveAll_of_covered index
      (along_withFee hamount hfee c role purpose feePurpose) hx hscale hbegin hend hcovered
    refine ⟨b', hmove, fun d hd => ?_, fun d hd => hshifted.others d ?_⟩
    · cases hd
      exact hshifted
    · rintro rfl
      exact hd rfl

/-- A side that is not ready is refused: its account is not there or does not cover the sum. -/
theorem Side.moveAll_of_not_ready (index : Nat) (hside : t.Side action account legs)
    (hamount : t.amount.value.scale ≤ k) (hfee : t.fee.value.scale ≤ k)
    (hroom : t.HasRoom k action account b) (hready : ¬t.Ready action account b) :
    ∃ i refusal, Leg.moveAll index b legs = .error (.error (.refused i refusal)) ∧
      ∃ c, account = some c ∧ ((b.find? c = none ∧ refusal = .unknownAccount c) ∨
        (action = .withdrawal ∧ (∃ x, b.find? c = some x ∧ x.toRat < t.total) ∧
          refusal = .insufficientFunds c)) := by
  cases hside with
  | absent => exact absurd (by simp [Ready]) hready
  | present c role purpose feePurpose =>
    cases hx : b.find? c with
    | none =>
      exact ⟨index, _, Leg.moveAll_of_unknown hx, c, rfl, .inl ⟨hx, rfl⟩⟩
    | some x =>
      obtain ⟨hscale, hbegin, -⟩ := hroom c rfl x hx
      have hshort : action = .withdrawal ∧ x.toRat < t.total := by
        by_contra hnot
        apply hready
        rintro d hd
        cases hd
        exact ⟨x, hx, fun haction => not_lt.1 fun hlt => hnot ⟨haction, hlt⟩⟩
      obtain ⟨rfl, hshort⟩ := hshort
      have hsum := hshort
      rw [← t.total_withFee .withdrawal c role purpose feePurpose] at hsum
      obtain ⟨i, hi⟩ := Leg.moveAll_of_not_covered index
        (along_withFee hamount hfee c role purpose feePurpose) hx hscale hbegin hsum
        (.inr (by simp [Leg.withFee]))
      exact ⟨i, _, hi, c, rfl, .inr ⟨rfl, ⟨x, hx, hshort⟩, rfl⟩⟩

/-! ## Both sides -/

/-- Legs that are the two sides of a transfer, what is withdrawn before what is deposited. -/
def Splits (t : Transfer) (legs : List Leg) : Prop :=
  ∃ withdrawals deposits, legs = withdrawals ++ deposits ∧
    t.Side .withdrawal t.source withdrawals ∧ t.Side .deposit t.target deposits

theorem mem_accounts {c : Int64} : c ∈ t.accounts ↔ t.source = some c ∨ t.target = some c := by
  simp [accounts]

theorem ready_deposit_iff : t.Ready .deposit account b ↔ ∀ c ∈ account, b.find? c ≠ none := by
  simp [Ready, Option.ne_none_iff_exists']

theorem covered_iff_ready :
    t.Covered b ↔ t.Ready .withdrawal t.source b ∧ t.Ready .deposit t.target b := by
  constructor
  · intro hcovered
    refine ⟨fun c hc => ?_, fun c hc => ?_⟩
    · obtain ⟨x, hx⟩ := hcovered.isOpen c (mem_accounts.2 (.inl hc))
      exact ⟨x, hx, fun _ => hcovered.holds c hc x hx⟩
    · obtain ⟨x, hx⟩ := hcovered.isOpen c (mem_accounts.2 (.inr hc))
      exact ⟨x, hx, nofun⟩
  · rintro ⟨hsource, htarget⟩
    refine ⟨fun c hc => ?_, fun c hc x hx => ?_⟩
    · rcases mem_accounts.1 hc with hc | hc
      · obtain ⟨x, hx, -⟩ := hsource c hc
        exact ⟨x, hx⟩
      · obtain ⟨x, hx, -⟩ := htarget c hc
        exact ⟨x, hx⟩
    · obtain ⟨y, hy, hholds⟩ := hsource c hc
      obtain rfl := Option.some.inj (hy.symm.trans hx)
      exact hholds rfl

/-- A withdrawal opens no account and closes none. -/
theorem Shift.find?_eq_none_iff {v : ℚ} (h : Shift t.source v k b b')
    (hsource : t.Ready .withdrawal t.source b) {c : Int64} :
    b'.find? c = none ↔ b.find? c = none := by
  by_cases hc : t.source = some c
  · obtain ⟨x, hx, -⟩ := hsource c hc
    obtain ⟨y, hy, -⟩ := h.find? hx
    simp [hx, hy]
  · rw [h.others c hc]

theorem total_nonneg (t : Transfer) : 0 ≤ t.total := by
  rw [← t.total_withFee .deposit 0 .conversion none none]
  exact Leg.total_nonneg _

/-- The bound on all sums bounds those of every account. -/
theorem Fits.bound (hfits : t.Fits k b) {c : Int64} {x : Decimal} (hc : c ∈ t.accounts)
    (hx : b.find? c = some x) : x.scale ≤ k ∧ (|x.toRat| + t.total) * 10 ^ k < 2 ^ 96 := by
  have hmem : x ∈ t.balances b := List.mem_filterMap.2 ⟨c, hc, hx⟩
  refine ⟨hfits.balances x hmem, ?_⟩
  have hle : |x.toRat| ≤ ((t.balances b).map fun x => |x.toRat|).sum := by
    apply List.single_le_sum
    · intro v hv
      obtain ⟨y, -, rfl⟩ := List.mem_map.1 hv
      exact abs_nonneg _
    · exact List.mem_map_of_mem hmem
  refine (mul_le_mul_of_nonneg_right ?_ (by positivity)).trans_lt hfits.sum
  linarith

theorem Fits.hasRoom (hfits : t.Fits k b) (action : LedgerAction)
    (hmem : ∀ c ∈ account, c ∈ t.accounts) : t.HasRoom k action account b := by
  intro c hc x hx
  obtain ⟨hscale, hbound⟩ := hfits.bound (hmem c hc) hx
  have htotal := t.total_nonneg
  refine ⟨hscale, ?_, ?_⟩
  · refine (mul_le_mul_of_nonneg_right ?_ (by positivity)).trans_lt hbound
    linarith
  · refine (mul_le_mul_of_nonneg_right ?_ (by positivity)).trans_lt hbound
    have habs : |action.signed t.total| = t.total := by
      cases action <;> simp [LedgerAction.signed, abs_of_nonneg htotal]
    exact (abs_add_le _ _).trans_eq (by rw [habs])

/-- What has left an account can come back to it. -/
theorem Fits.hasRoom_target (hfits : t.Fits k b) (hready : t.Ready .withdrawal t.source b)
    (hsource : Shift t.source (LedgerAction.withdrawal.signed t.total) k b b') :
    t.HasRoom k .deposit t.target b' := by
  intro c hc y hy
  by_cases hsame : t.source = some c
  · obtain ⟨x, hx, -⟩ := hready c hsame
    obtain ⟨z, hz, hval, hscale⟩ := (hsource.moved c hsame).moved x hx
    obtain rfl := Option.some.inj (hz.symm.trans hy)
    obtain ⟨-, hbegin, hend⟩ := hfits.hasRoom .withdrawal
      (fun d hd => mem_accounts.2 (.inl hd)) c hsame x hx
    refine ⟨hscale, by rwa [hval], ?_⟩
    rwa [hval, LedgerAction.signed, LedgerAction.signed, neg_add_cancel_right]
  · rw [hsource.others c hsame] at hy
    exact hfits.hasRoom .deposit (fun d hd => mem_accounts.2 (.inr hd)) c hc y hy

theorem moveAll_of_covered (index : Nat) (hlegs : t.Splits legs) (hfits : t.Fits k b)
    (hcovered : t.Covered b) : ∃ b', Leg.moveAll index b legs = .ok b' ∧ t.Made b b' := by
  obtain ⟨withdrawals, deposits, rfl, hwithdrawals, hdeposits⟩ := hlegs
  obtain ⟨hsource, htarget⟩ := covered_iff_ready.1 hcovered
  have hroom := hfits.hasRoom .withdrawal fun c hc => mem_accounts.2 (.inl hc)
  obtain ⟨middle, hmiddle, hleft⟩ :=
    hwithdrawals.moveAll_of_ready index hfits.amount hfits.fee hroom hsource
  have hstill : t.Ready .deposit t.target middle := by
    rw [ready_deposit_iff] at htarget ⊢
    exact fun c hc => (hleft.find?_eq_none_iff hsource).not.2 (htarget c hc)
  obtain ⟨b', hb', hreached⟩ := hdeposits.moveAll_of_ready (index + 2 * withdrawals.length)
    hfits.amount hfits.fee (hfits.hasRoom_target hsource hleft) hstill
  refine ⟨b', ?_, fun c x hx => ?_, fun c hc => ?_⟩
  · rw [Leg.moveAll_append, hmiddle]
    exact hb'
  · obtain ⟨y, hy, hxy⟩ := hleft.find? hx
    obtain ⟨z, hz, hyz⟩ := hreached.find? hy
    refine ⟨z, hz, ?_⟩
    rw [hyz, hxy, change, LedgerAction.signed, LedgerAction.signed]
    split_ifs <;> ring
  · rw [mem_accounts, not_or] at hc
    rw [hreached.others c hc.2, hleft.others c hc.1]

/-- A transfer that is not covered is refused, and there is no other refusal than for that. -/
theorem moveAll_of_not_covered (index : Nat) (hlegs : t.Splits legs) (hfits : t.Fits k b)
    (hcovered : ¬t.Covered b) :
    ∃ i refusal, Leg.moveAll index b legs = .error (.error (.refused i refusal)) ∧
      t.IsRefusal b refusal := by
  obtain ⟨withdrawals, deposits, rfl, hwithdrawals, hdeposits⟩ := hlegs
  have hroom := hfits.hasRoom .withdrawal fun c hc => mem_accounts.2 (.inl hc)
  rw [Leg.moveAll_append]
  by_cases hsource : t.Ready .withdrawal t.source b
  · obtain ⟨middle, hmiddle, hleft⟩ :=
      hwithdrawals.moveAll_of_ready index hfits.amount hfits.fee hroom hsource
    -- What is missing can only be the account that is deposited on.
    have htarget : ¬t.Ready .deposit t.target b := fun h =>
      hcovered (covered_iff_ready.2 ⟨hsource, h⟩)
    have hstill : ¬t.Ready .deposit t.target middle := by
      rw [ready_deposit_iff] at htarget ⊢
      exact fun h => htarget fun c hc => (hleft.find?_eq_none_iff hsource).not.1 (h c hc)
    obtain ⟨i, refusal, herror, c, hc, hwhy⟩ := hdeposits.moveAll_of_not_ready
      (index + 2 * withdrawals.length) hfits.amount hfits.fee
      (hfits.hasRoom_target hsource hleft) hstill
    rw [hmiddle]
    refine ⟨i, refusal, herror, c, .inl ⟨mem_accounts.2 (.inr hc), ?_⟩⟩
    rcases hwhy with ⟨hnone, hrefusal⟩ | ⟨hwithdrawal, -⟩
    · exact ⟨(hleft.find?_eq_none_iff hsource).1 hnone, hrefusal⟩
    · cases hwithdrawal
  · obtain ⟨i, refusal, herror, c, hc, hwhy⟩ :=
      hwithdrawals.moveAll_of_not_ready index hfits.amount hfits.fee hroom hsource
    rw [herror]
    refine ⟨i, refusal, rfl, c, ?_⟩
    rcases hwhy with ⟨hnone, hrefusal⟩ | ⟨-, hshort, hrefusal⟩
    · exact .inl ⟨mem_accounts.2 (.inl hc), hnone, hrefusal⟩
    · exact .inr ⟨hc, hshort, hrefusal⟩

end Transfer

/-! ## The transfers of the stages -/

/-- The legs of an outline are those of a transfer, for the tenant of the outline. -/
structure Outline.Makes (o : Outline) (t : Transfer) : Prop where
  tenant : t.tenant = o.tenant.name
  sides : ∃ withdrawals deposits, o.legs = withdrawals ++ deposits ∧
    t.Side .withdrawal t.source withdrawals ∧ t.Side .deposit t.target deposits

section Requests

variable {stage : BookingStage} {settings : LedgerSettings} {directory : TenantDirectory}
  {clock : Clock} {o : Outline}

theorem TechnicalCreditRequest.makes_of_outline {r : TechnicalCreditRequest}
    (h : r.outline directory = .ok o) :
    ∃ accounts account, directory.technicalAccounts.find? r.context.tenant = some accounts ∧
      accounts.find? (r.context.scheme ++ "." ++ r.case) = some account ∧
      o.Makes ⟨r.context.tenant, r.amount, .free, some account, none⟩ := by
  obtain ⟨tenant, id, account, entry, htenant, -, haccount, -, rfl⟩ := outline_eq_ok_iff.1 h
  obtain ⟨hname, -, htables⟩ := TenantDirectory.resolve_eq_ok htenant
  obtain ⟨accounts, haccounts, hfind⟩ := Tenant.technicalAccount_eq_ok_iff.1 haccount
  rw [htables] at haccounts
  exact ⟨accounts, account, haccounts, hfind, hname.symm, _, [], rfl,
    .present account (.technical r.case) r.context.purpose none, .absent⟩

theorem ConversionCreditRequest.makes_of_outline {r : ConversionCreditRequest}
    (h : r.outline directory stage = .ok o) :
    o.Makes ⟨r.context.tenant, r.amount, .free, none, some r.conversionAccount⟩ := by
  obtain ⟨tenant, id, entry, htenant, -, -, rfl⟩ := outline_eq_ok_iff.1 h
  obtain ⟨hname, -, -⟩ := TenantDirectory.resolve_eq_ok htenant
  exact ⟨hname.symm, [], _, rfl, .absent,
    .present r.conversionAccount .conversion r.context.purpose none⟩

theorem ConversionDebitRequest.makes_of_outline {r : ConversionDebitRequest}
    (h : r.outline directory = .ok o) :
    o.Makes ⟨r.context.tenant, r.amount, r.fee, some r.conversionAccount, none⟩ := by
  obtain ⟨tenant, id, entry, htenant, -, -, rfl⟩ := outline_eq_ok_iff.1 h
  obtain ⟨hname, -, -⟩ := TenantDirectory.resolve_eq_ok htenant
  exact ⟨hname.symm, _, [], (List.append_nil _).symm,
    .present r.conversionAccount .conversion r.context.purpose r.feePurpose, .absent⟩

theorem RevertRequest.makes_of_outline {r : RevertRequest}
    (h : r.outline settings directory clock stage = .ok o) :
    o.Makes ⟨r.context.tenant, r.amount, r.fee, some r.conversionAccount,
      some r.disposalAccount⟩ := by
  obtain ⟨tenant, id, date, resolved, entry, htenant, -, -, -, rfl⟩ := outline_eq_ok_iff.1 h
  obtain ⟨hname, -, -⟩ := TenantDirectory.resolve_eq_ok htenant
  exact ⟨hname.symm, _, _, rfl, .present r.conversionAccount .conversion _ _,
    .present r.disposalAccount .disposal _ _⟩

theorem DisposalDepositRequest.makes_of_outline {r : DisposalDepositRequest}
    (h : r.outline settings directory clock = .ok o) :
    o.Makes ⟨r.context.tenant, r.amount, .free, some r.conversionAccount,
      some r.disposalAccount⟩ := by
  obtain ⟨tenant, id, resolvedId, date, resolvedDate, entry, htenant, -, -, -, rfl⟩ :=
    outline_eq_ok_iff.1 h
  obtain ⟨hname, -, -⟩ := TenantDirectory.resolve_eq_ok htenant
  exact ⟨hname.symm, _, _, rfl, .present r.conversionAccount .conversion r.context.purpose none,
    .present r.disposalAccount .disposal r.context.purpose none⟩

end Requests

theorem BookingStage.transfers_of_outline {stage : BookingStage} {env : Environment}
    {vars : Variables} {o : Outline} (h : stage.outline env vars = .ok o) :
    ∃ t, stage.Transfers env.directory vars t ∧ o.Makes t := by
  cases outline_eq_ok_iff.1 h with
  | technicalCredit hread h =>
    obtain ⟨accounts, account, haccounts, haccount, hmakes⟩ :=
      TechnicalCreditRequest.makes_of_outline h
    exact ⟨_, .technicalCredit hread haccounts haccount, hmakes⟩
  | conversionCredit hstage hread h =>
    exact ⟨_, .conversionCredit hstage hread, ConversionCreditRequest.makes_of_outline h⟩
  | conversionDebit hread h =>
    exact ⟨_, .conversionDebit hread, ConversionDebitRequest.makes_of_outline h⟩
  | revert hstage hread h =>
    exact ⟨_, .revert hstage hread, RevertRequest.makes_of_outline h⟩
  | disposalDeposit hread h =>
    exact ⟨_, .disposalDeposit hread, DisposalDepositRequest.makes_of_outline h⟩

theorem BookingStage.transfers_of_plan {stage : BookingStage} {env : Environment}
    {vars : Variables} {plan : Plan} (h : stage.plan env vars = .ok plan) :
    ∃ t, stage.Transfers env.directory vars t ∧ t.tenant = plan.outline.tenant.name ∧
      t.Splits (plan.postings.map Posting.leg) := by
  obtain ⟨o, houtline, ho⟩ := bind_eq_ok_iff.1 h
  obtain ⟨t, ht, hmakes⟩ := transfers_of_outline houtline
  obtain ⟨rfl, hlegs, -⟩ := Outline.legs_of_plan ho
  rw [← hlegs]
  exact ⟨t, ht, hmakes.tenant, hmakes.sides⟩

theorem BookingStage.length_postings_le {stage : BookingStage} {env : Environment}
    {vars : Variables} {plan : Plan} (h : stage.plan env vars = .ok plan) :
    plan.postings.length ≤ 4 := by
  obtain ⟨t, -, -, withdrawals, deposits, hlegs, hwithdrawals, hdeposits⟩ := transfers_of_plan h
  have hlength := congrArg List.length hlegs
  rw [List.length_map, List.length_append] at hlength
  have hleft := hwithdrawals.length_le
  have hright := hdeposits.length_le
  omega

end PaymentBooking
