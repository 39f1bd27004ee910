import PaymentBooking.Proofs.Booking.Renumbering
import PaymentBooking.Proofs.Booking.Transfer

/-! # Batches in any order

A batch finds the balances that the batches before it have left. If every balance covers all that
all batches together take from it, and has room for all that they bring to it, no batch depends on
what came before: in whichever order they are submitted, every one of them is accepted, and the
balances and postings that they leave are the same.
-/

namespace PaymentBooking

namespace Leg

variable {k : ℕ} {b b' b'' : Dict Int64 Decimal} {leg : Leg} {legs rest : List Leg}

/-! ## Legs -/

/-- The sum of what legs move on an account by a command. -/
def turnover (action : LedgerAction) (account : Int64) (legs : List Leg) : ℚ :=
  total (legs.filter fun leg => leg.account = account ∧ leg.action = action)

theorem turnover_nonneg (action : LedgerAction) (account : Int64) (legs : List Leg) :
    0 ≤ turnover action account legs := total_nonneg _

@[simp] theorem turnover_nil (action : LedgerAction) (account : Int64) :
    turnover action account [] = 0 := rfl

theorem turnover_cons (action : LedgerAction) (account : Int64) (leg : Leg) (legs : List Leg) :
    turnover action account (leg :: legs) =
      (if leg.account = account ∧ leg.action = action then leg.amount.value.toRat else 0) +
        turnover action account legs := by
  by_cases h : leg.account = account ∧ leg.action = action
  · simp [turnover, h, total_cons]
  · simp [turnover, h]

theorem turnover_append (action : LedgerAction) (account : Int64) (legs rest : List Leg) :
    turnover action account (legs ++ rest) =
      turnover action account legs + turnover action account rest := by
  simp [turnover, total]

theorem turnover_perm (h : legs.Perm rest) (action : LedgerAction) (account : Int64) :
    turnover action account legs = turnover action account rest :=
  ((h.filter _).map _).sum_eq

/-- What legs bring to an account, less what they take from it. -/
def net (account : Int64) (legs : List Leg) : ℚ :=
  turnover .deposit account legs - turnover .withdrawal account legs

theorem net_append (account : Int64) (legs rest : List Leg) :
    net account (legs ++ rest) = net account legs + net account rest := by
  rw [net, turnover_append, turnover_append, net, net]
  ring

theorem net_perm (h : legs.Perm rest) (account : Int64) : net account legs = net account rest := by
  rw [net, turnover_perm h, turnover_perm h, net]

theorem net_singleton (account : Int64) (leg : Leg) :
    net account [leg] =
      if leg.account = account then leg.action.signed leg.amount.value.toRat else 0 := by
  by_cases h : leg.account = account
  · cases haction : leg.action <;> simp [net, turnover_cons, h, haction, LedgerAction.signed]
  · simp [net, turnover_cons, h]

/-- The balances cover all that legs take and have room for all that they bring, in whichever order
the legs are moved, and at most `k` digits are behind any point. -/
structure Funded (k : ℕ) (b : Dict Int64 Decimal) (legs : List Leg) : Prop where
  isOpen : ∀ leg ∈ legs, b.find? leg.account ≠ none
  amounts : ∀ leg ∈ legs, leg.amount.value.scale ≤ k
  balances : ∀ leg ∈ legs, ∀ x ∈ b.find? leg.account, x.scale ≤ k
  covered : ∀ leg ∈ legs, ∀ x ∈ b.find? leg.account,
    turnover .withdrawal leg.account legs ≤ x.toRat
  hasRoom : ∀ leg ∈ legs, ∀ x ∈ b.find? leg.account,
    (x.toRat + turnover .deposit leg.account legs) * 10 ^ k < 2 ^ 96

instance (k : ℕ) (b : Dict Int64 Decimal) (legs : List Leg) : Decidable (Funded k b legs) :=
  decidable_of_iff ((∀ leg ∈ legs, b.find? leg.account ≠ none) ∧
      (∀ leg ∈ legs, leg.amount.value.scale ≤ k) ∧
      (∀ leg ∈ legs, ∀ x ∈ b.find? leg.account, x.scale ≤ k) ∧
      (∀ leg ∈ legs, ∀ x ∈ b.find? leg.account, turnover .withdrawal leg.account legs ≤ x.toRat) ∧
      ∀ leg ∈ legs, ∀ x ∈ b.find? leg.account,
        (x.toRat + turnover .deposit leg.account legs) * 10 ^ k < 2 ^ 96)
    ⟨fun ⟨isOpen, amounts, balances, covered, hasRoom⟩ =>
        ⟨isOpen, amounts, balances, covered, hasRoom⟩,
      fun h => ⟨h.isOpen, h.amounts, h.balances, h.covered, h.hasRoom⟩⟩

theorem Funded.perm (h : Funded k b legs) (hperm : rest.Perm legs) : Funded k b rest where
  isOpen leg hleg := h.isOpen leg (hperm.mem_iff.1 hleg)
  amounts leg hleg := h.amounts leg (hperm.mem_iff.1 hleg)
  balances leg hleg := h.balances leg (hperm.mem_iff.1 hleg)
  covered leg hleg x hx := by
    rw [turnover_perm hperm]
    exact h.covered leg (hperm.mem_iff.1 hleg) x hx
  hasRoom leg hleg x hx := by
    rw [turnover_perm hperm]
    exact h.hasRoom leg (hperm.mem_iff.1 hleg) x hx

/-- The first leg finds its account open and funded. -/
theorem Funded.newBalance (h : Funded k b (leg :: legs)) :
    ∃ x y, b.find? leg.account = some x ∧
      Book.newBalance leg.account leg.action x leg.amount.value = .ok y ∧
      y.toRat = x.toRat + leg.action.signed leg.amount.value.toRat ∧ y.scale ≤ k := by
  have hmem : leg ∈ leg :: legs := List.mem_cons_self
  obtain ⟨x, hx⟩ := Option.ne_none_iff_exists'.1 (h.isOpen leg hmem)
  have hcovered := h.covered leg hmem x hx
  have hroom := h.hasRoom leg hmem x hx
  have hpos := (Decimal.isPositive_iff _).1 leg.amount.positive
  have hwithdrawn := turnover_nonneg .withdrawal leg.account legs
  have hdeposited := turnover_nonneg .deposit leg.account legs
  have hbound : |x.toRat + leg.action.signed leg.amount.value.toRat| ≤
      x.toRat + turnover .deposit leg.account (leg :: legs) := by
    rw [turnover_cons] at hcovered ⊢
    cases haction : leg.action with
    | deposit =>
      simp only [haction, LedgerAction.signed, reduceCtorEq, and_false, if_false, and_true,
        if_true] at hcovered ⊢
      rw [abs_of_nonneg (by linarith)]
      linarith
    | withdrawal =>
      simp only [haction, LedgerAction.signed, reduceCtorEq, and_false, if_false, and_true,
        if_true] at hcovered ⊢
      rw [abs_of_nonneg (by linarith)]
      linarith
  have hfit := (mul_le_mul_of_nonneg_right hbound (Decimal.pow_ten_pos k).le).trans_lt hroom
  obtain ⟨y, hy, hval, hscale⟩ := Book.newBalance_of_lt leg.account (h.balances leg hmem x hx)
    (h.amounts leg hmem) (fun haction => by
      rw [turnover_cons, if_pos ⟨rfl, haction⟩] at hcovered
      linarith) hfit
  exact ⟨x, y, hx, hy, hval, hscale⟩

/-- What the first leg leaves funds the rest. -/
theorem Funded.tail (h : Funded k b (leg :: legs)) {x y : Decimal}
    (hx : b.find? leg.account = some x)
    (hy : y.toRat = x.toRat + leg.action.signed leg.amount.value.toRat) (hscale : y.scale ≤ k) :
    Funded k (b.insert leg.account y) legs where
  isOpen other hother := by
    by_cases hsame : other.account = leg.account
    · rw [hsame, Dict.find?_insert_self]
      exact Option.some_ne_none y
    · rw [Dict.find?_insert_of_ne _ hsame]
      exact h.isOpen other (List.mem_cons_of_mem leg hother)
  amounts other hother := h.amounts other (List.mem_cons_of_mem leg hother)
  balances other hother z hz := by
    by_cases hsame : other.account = leg.account
    · rw [hsame, Dict.find?_insert_self] at hz
      cases hz
      exact hscale
    · rw [Dict.find?_insert_of_ne _ hsame] at hz
      exact h.balances other (List.mem_cons_of_mem leg hother) z hz
  covered other hother z hz := by
    have hpos := (Decimal.isPositive_iff _).1 leg.amount.positive
    by_cases hsame : other.account = leg.account
    · rw [hsame, Dict.find?_insert_self] at hz
      cases hz
      have hcovered := h.covered leg List.mem_cons_self x hx
      rw [turnover_cons] at hcovered
      rw [hsame, hy]
      cases haction : leg.action <;> simp [haction, LedgerAction.signed] at hcovered ⊢ <;> linarith
    · rw [Dict.find?_insert_of_ne _ hsame] at hz
      have hcovered := h.covered other (List.mem_cons_of_mem leg hother) z hz
      rwa [turnover_cons, if_neg fun hleg => hsame hleg.1.symm, zero_add] at hcovered
  hasRoom other hother z hz := by
    have hpos := (Decimal.isPositive_iff _).1 leg.amount.positive
    by_cases hsame : other.account = leg.account
    · rw [hsame, Dict.find?_insert_self] at hz
      cases hz
      refine (mul_le_mul_of_nonneg_right ?_ (Decimal.pow_ten_pos k).le).trans_lt
        (h.hasRoom leg List.mem_cons_self x hx)
      rw [turnover_cons, hsame, hy]
      cases haction : leg.action <;> simp [LedgerAction.signed] <;> linarith
    · rw [Dict.find?_insert_of_ne _ hsame] at hz
      have hroom := h.hasRoom other (List.mem_cons_of_mem leg hother) z hz
      rwa [turnover_cons, if_neg fun hleg => hsame hleg.1.symm, zero_add] at hroom

/-- Every balance has moved by the net of the legs. -/
def Moved (legs : List Leg) (b b' : Dict Int64 Decimal) : Prop :=
  ∀ account, (b'.find? account).map Decimal.toRat =
    (b.find? account).map fun x => x.toRat + net account legs

theorem moved_nil (b : Dict Int64 Decimal) : Moved [] b b := by
  intro account
  simp [net]

theorem Moved.trans (h : Moved legs b b') (h' : Moved rest b' b'') :
    Moved (legs ++ rest) b b'' := by
  intro account
  have hfirst := h account
  rw [h' account, net_append]
  cases hb : b.find? account <;> cases hb' : b'.find? account <;> simp_all [add_assoc]

theorem moved_insert {x y : Decimal} (hx : b.find? leg.account = some x)
    (hy : y.toRat = x.toRat + leg.action.signed leg.amount.value.toRat) :
    Moved [leg] b (b.insert leg.account y) := by
  intro account
  rw [net_singleton]
  by_cases hsame : account = leg.account
  · simp [hsame, hx, hy]
  · rw [Dict.find?_insert_of_ne _ hsame, if_neg (Ne.symm hsame)]
    simp

/-- Legs that are funded with others are moved, and the others are funded still. -/
theorem Funded.moveAll (index : ℕ) (h : Funded k b (legs ++ rest)) :
    ∃ b', Leg.moveAll index b legs = .ok b' ∧ Moved legs b b' ∧ Funded k b' rest := by
  induction legs generalizing index b with
  | nil => exact ⟨b, rfl, moved_nil b, h⟩
  | cons leg legs ih =>
    obtain ⟨x, y, hx, hnew, hy, hscale⟩ := h.newBalance
    obtain ⟨b', hmoveAll, hmoved, hrest⟩ := ih (index + 2) (h.tail hx hy hscale)
    refine ⟨b', ?_, (moved_insert hx hy).trans hmoved, hrest⟩
    rw [moveAll_of_newBalance hx hnew]
    exact hmoveAll

end Leg

/-! ## Batches -/

def Posting.content (q : Posting) : Int64 × LedgerAction × Decimal × Int64 :=
  (q.leg.account, q.leg.action, q.leg.amount.value, q.paymentType)

/-- The numbers that postings are given are not part of what they post. -/
theorem Posting.content_transactions (next : ℕ) (qs : List Posting) :
    (qs.mapIdx fun i q => q.transaction (next + i)).map Transaction.content =
      qs.map Posting.content := by
  apply List.ext_getElem
  · simp
  · intro i _ _
    simp [transaction, Transaction.content, content]

namespace Plan

def postingsFor (tenant : String) (plans : List Plan) : List Posting :=
  plans.flatMap fun plan => if plan.outline.tenant.name = tenant then plan.postings else []

def legsFor (tenant : String) (plans : List Plan) : List Leg :=
  (postingsFor tenant plans).map Posting.leg

def size (plans : List Plan) : ℕ := (plans.map fun plan => plan.postings.length).sum

variable {tenant : String} {plan : Plan} {plans order : List Plan}

theorem postingsFor_append (tenant : String) (plans rest : List Plan) :
    postingsFor tenant (plans ++ rest) = postingsFor tenant plans ++ postingsFor tenant rest := by
  simp [postingsFor]

theorem postingsFor_self (plan : Plan) :
    postingsFor plan.outline.tenant.name [plan] = plan.postings := by simp [postingsFor]

theorem postingsFor_of_ne (h : plan.outline.tenant.name ≠ tenant) :
    postingsFor tenant [plan] = [] := by simp [postingsFor, h]

theorem postingsFor_perm (h : order.Perm plans) (tenant : String) :
    (postingsFor tenant order).Perm (postingsFor tenant plans) := h.flatMap_right _

theorem legsFor_self (plan : Plan) :
    legsFor plan.outline.tenant.name [plan] = plan.postings.map Posting.leg := by
  rw [legsFor, postingsFor_self]

theorem legsFor_of_ne (h : plan.outline.tenant.name ≠ tenant) : legsFor tenant [plan] = [] := by
  rw [legsFor, postingsFor_of_ne h, List.map_nil]

theorem legsFor_append (tenant : String) (plans rest : List Plan) :
    legsFor tenant (plans ++ rest) = legsFor tenant plans ++ legsFor tenant rest := by
  simp [legsFor, postingsFor_append]

theorem legsFor_perm (h : order.Perm plans) (tenant : String) :
    (legsFor tenant order).Perm (legsFor tenant plans) := (postingsFor_perm h tenant).map _

theorem size_cons (plan : Plan) (plans : List Plan) :
    size (plan :: plans) = plan.postings.length + size plans := by simp [size]

theorem size_perm (h : order.Perm plans) : size order = size plans := (h.map _).sum_eq

end Plan

theorem BookingStage.postings_ne_nil {stage : BookingStage} {env : Environment} {vars : Variables}
    {plan : Plan} (h : stage.plan env vars = .ok plan) : plan.postings ≠ [] := by
  obtain ⟨t, ht, -, withdrawals, deposits, hlegs, hwithdrawals, hdeposits⟩ := transfers_of_plan h
  have hside : t.source ≠ none ∨ t.target ≠ none := by
    cases ht <;> simp
  intro hnil
  rw [hnil, List.map_nil, eq_comm, List.append_eq_nil_iff] at hlegs
  obtain ⟨rfl, rfl⟩ := hlegs
  -- A side without legs has no account.
  rcases hside with hsource | htarget
  · generalize t.source = account at hwithdrawals hsource
    cases hwithdrawals
    exact hsource rfl
  · generalize t.target = account at hdeposits htarget
    cases hdeposits
    exact htarget rfl

namespace Ledger

/-- The book of every tenant funds all that plans move for it, in whichever order. -/
def Funds (l : Ledger) (k : ℕ) (plans : List Plan) : Prop :=
  ∀ tenant, Leg.Funded k (l.bookOf tenant).balances (Plan.legsFor tenant plans)

/-- Plans have been booked: every balance has moved by what they move on it, and for every tenant
what they post has been added to the transactions. -/
structure Booked (plans : List Plan) (l l' : Ledger) : Prop where
  balances : ∀ tenant, Leg.Moved (Plan.legsFor tenant plans) (l.bookOf tenant).balances
    (l'.bookOf tenant).balances
  transactions : ∀ tenant, (l'.bookOf tenant).transactions.map Transaction.content =
    (l.bookOf tenant).transactions.map Transaction.content ++
      (Plan.postingsFor tenant plans).map Posting.content

def submitAll (settings : LedgerSettings) (l : Ledger) : List Plan → Except Failure Ledger
  | [] => .ok l
  | plan :: plans =>
    match l.submit (plan.batch settings).tenant (plan.batch settings).items with
    | (l, .ok _) => submitAll settings l plans
    | (_, .error failure) => .error failure

variable {settings : LedgerSettings} {l l' l'' : Ledger} {k : ℕ} {plan : Plan}
  {plans order : List Plan}

theorem booked_nil (l : Ledger) : Booked [] l l where
  balances _ := Leg.moved_nil _
  transactions tenant := by simp [Plan.postingsFor]

theorem Booked.trans (h : Booked plans l l') (h' : Booked order l' l'') :
    Booked (plans ++ order) l l'' where
  balances tenant := by
    rw [Plan.legsFor_append]
    exact (h.balances tenant).trans (h'.balances tenant)
  transactions tenant := by
    rw [h'.transactions, h.transactions, Plan.postingsFor_append, List.map_append,
      List.append_assoc]

theorem Funds.perm (h : l.Funds k plans) (hperm : order.Perm plans) : l.Funds k order :=
  fun tenant => (h tenant).perm (Plan.legsFor_perm hperm tenant)

/-- The batch of a plan is accepted if the book of its tenant funds it. What it leaves funds the
legs that are to come. -/
theorem submit_of_funded {b : Book} {rest : List Leg} (hsettings : settings.Addressable)
    (hroom : l.HasRoom plan.postings.length)
    (hbook : l.books.find? plan.outline.tenant.name = some b)
    (h : Leg.Funded k b.balances (plan.postings.map Posting.leg ++ rest)) :
    ∃ r : Progress, l.submit (plan.batch settings).tenant (plan.batch settings).items =
        (⟨l.books.insert plan.outline.tenant.name r.book, r.next⟩, .ok r.receipt) ∧
      Leg.Moved (plan.postings.map Posting.leg) b.balances r.book.balances ∧
      Leg.Funded k r.book.balances rest ∧
      Progress.Posts settings.detailTable ⟨b, l.next, []⟩ plan.postings r := by
  obtain ⟨balances, hmoveAll, hmoved, hrest⟩ := h.moveAll 0
  have hagree := Progress.settleAll_agree settings plan.outline.statement 0 ⟨b, l.next, []⟩
    plan.postings
  rw [hmoveAll] at hagree
  obtain ⟨r, hr, rfl, -⟩ := hagree.eq_ok
  have hrun : Progress.run 0 ⟨b, l.next, []⟩ (plan.batch settings).items = .ok r :=
    (Progress.run_flatMap_items _ _ 0 (p := ⟨b, l.next, []⟩) hsettings hroom).trans hr
  exact ⟨r, Ledger.submit_of_run hbook hrun, hmoved, hrest, Progress.posts_of_run hsettings hrun⟩

/-- A batch of funded ones is accepted and leaves the rest of them funded. -/
theorem Funds.submit (hsettings : settings.Addressable) (hne : plan.postings ≠ [])
    (hroom : l.HasRoom plan.postings.length) (h : l.Funds k (plan :: plans)) :
    ∃ l' receipt, l.submit (plan.batch settings).tenant (plan.batch settings).items =
        (l', .ok receipt) ∧
      Booked [plan] l l' ∧ l'.next = l.next + plan.postings.length ∧ l'.Funds k plans := by
  have hlegs : ∀ tenant, Plan.legsFor tenant (plan :: plans) =
      Plan.legsFor tenant [plan] ++ Plan.legsFor tenant plans :=
    fun tenant => Plan.legsFor_append tenant [plan] plans
  have hown := h plan.outline.tenant.name
  rw [hlegs, Plan.legsFor_self] at hown
  obtain ⟨b, hbook⟩ : ∃ b, l.books.find? plan.outline.tenant.name = some b := by
    obtain ⟨q, hq⟩ := List.exists_mem_of_ne_nil _ hne
    have hopen := hown.isOpen q.leg (List.mem_append_left _ (List.mem_map_of_mem hq))
    by_contra hnone
    rw [← Option.ne_none_iff_exists', not_not] at hnone
    rw [bookOf, hnone] at hopen
    exact hopen rfl
  have hb : l.bookOf plan.outline.tenant.name = b := bookOf_of_find? hbook
  rw [hb] at hown
  obtain ⟨r, hsubmit, hmoved, hrest, hposts⟩ := submit_of_funded hsettings hroom hbook hown
  have hafter : bookOf ⟨l.books.insert plan.outline.tenant.name r.book, r.next⟩
      plan.outline.tenant.name = r.book := bookOf_setBook_self l _ _
  have hothers : ∀ tenant ≠ plan.outline.tenant.name,
      bookOf ⟨l.books.insert plan.outline.tenant.name r.book, r.next⟩ tenant = l.bookOf tenant :=
    fun tenant hne => bookOf_setBook_of_ne l hne _
  refine ⟨_, _, hsubmit, ⟨fun tenant => ?_, fun tenant => ?_⟩, hposts.next, fun tenant => ?_⟩
  · by_cases hsame : tenant = plan.outline.tenant.name
    · rw [hsame, Plan.legsFor_self, hb, hafter]
      exact hmoved
    · rw [Plan.legsFor_of_ne (Ne.symm hsame), hothers tenant hsame]
      exact Leg.moved_nil _
  · by_cases hsame : tenant = plan.outline.tenant.name
    · rw [hsame, Plan.postingsFor_self, hb, hafter, hposts.transactions, List.map_append]
      exact congrArg _ (Posting.content_transactions l.next plan.postings)
    · simp [Plan.postingsFor_of_ne (Ne.symm hsame), hothers tenant hsame]
  · by_cases hsame : tenant = plan.outline.tenant.name
    · rw [hsame, hafter]
      exact hrest
    · have hother := h tenant
      rw [hlegs, Plan.legsFor_of_ne (Ne.symm hsame)] at hother
      rw [hothers tenant hsame]
      exact hother

theorem Funds.submitAll (hsettings : settings.Addressable)
    (hne : ∀ plan ∈ plans, plan.postings ≠ []) (hroom : l.HasRoom (Plan.size plans))
    (h : l.Funds k plans) : ∃ l', l.submitAll settings plans = .ok l' ∧ Booked plans l l' := by
  induction plans generalizing l with
  | nil => exact ⟨l, rfl, booked_nil l⟩
  | cons plan plans ih =>
    rw [Plan.size_cons] at hroom
    obtain ⟨l', receipt, hsubmit, hbooked, hnext, hrest⟩ :=
      h.submit hsettings (hne plan List.mem_cons_self) (hroom.mono (Nat.le_add_right ..))
    obtain ⟨l'', hsubmitAll, hbookedAll⟩ :=
      ih (fun p hp => hne p (List.mem_cons_of_mem plan hp)) (hroom.behind hnext) hrest
    refine ⟨l'', ?_, hbooked.trans hbookedAll⟩
    rw [Ledger.submitAll, hsubmit]
    exact hsubmitAll

/-- Ledgers with the same value on every account and the same transactions for every tenant, in
whatever order and under whatever numbers. -/
structure Equivalent (l m : Ledger) : Prop where
  balances : ∀ tenant account, (l.balance? tenant account).map Decimal.toRat =
    (m.balance? tenant account).map Decimal.toRat
  transactions : ∀ tenant, ((l.bookOf tenant).transactions.map Transaction.content).Perm
    ((m.bookOf tenant).transactions.map Transaction.content)

theorem Booked.equivalent (h : Booked order l l') (h' : Booked plans l l'')
    (hperm : order.Perm plans) : l'.Equivalent l'' where
  balances tenant account := by
    rw [balance?, balance?, h.balances, h'.balances, Leg.net_perm (Plan.legsFor_perm hperm tenant)]
  transactions tenant := by
    rw [h.transactions, h'.transactions]
    exact ((Plan.postingsFor_perm hperm tenant).map _).append_left _

/-- Funded batches that were planned are all accepted, in whichever order they are submitted, and
every order leaves the same values and the same transactions: on every account what the batches
bring to it less what they take from it, and a transaction for every posting. There have to be
numbers left for the transactions. -/
theorem submitAll_of_perm (hsettings : settings.Addressable)
    (hplans : ∀ plan ∈ plans, ∃ (stage : BookingStage) (env : Environment) (vars : Variables),
      env.settings = settings ∧ stage.plan env vars = .ok plan)
    (hroom : l.HasRoom (Plan.size plans)) (hfunds : l.Funds k plans) :
    ∃ m, l.submitAll settings plans = .ok m ∧ Booked plans l m ∧
      ∀ order : List Plan, order.Perm plans →
        ∃ m', l.submitAll settings order = .ok m' ∧ m'.Equivalent m := by
  have hne : ∀ plan ∈ plans, plan.postings ≠ [] := by
    intro plan hmem
    obtain ⟨stage, env, vars, -, hplan⟩ := hplans plan hmem
    exact BookingStage.postings_ne_nil hplan
  obtain ⟨m, hm, hbooked⟩ := hfunds.submitAll hsettings hne hroom
  refine ⟨m, hm, hbooked, fun order hperm => ?_⟩
  obtain ⟨m', hm', hbooked'⟩ := (hfunds.perm hperm).submitAll hsettings
    (fun plan hmem => hne plan (hperm.mem_iff.1 hmem)) (by rwa [Plan.size_perm hperm])
  exact ⟨m', hm', hbooked'.equivalent hbooked hperm⟩

end Ledger

/-- The variables of a job that undoes a smaller payment, without a fee and the other way. -/
def Variables.exchanging : Variables :=
  Variables.reverting.insertMany
    [("amount", .text "2.5"), ("transactionFeeAmount", .text "0"),
     ("conversionAccountAmsId", .ofInt64 12), ("disposalAccountAmsId", .ofInt64 11)]

/-- A ledger on which both jobs are funded, whichever comes first. -/
def Ledger.exchanging : Ledger :=
  (Ledger.empty.openAccount "t" 11 ((Decimal.read? "102.50").getD .zero)).openAccount "t" 12
    ((Decimal.read? "2.500").getD .zero)

theorem Ledger.submitAll_exchanging :
    ∃ p q : Plan,
      BookingStage.revert.plan .reverting .reverting = .ok p ∧
      BookingStage.revert.plan .reverting .exchanging = .ok q ∧
      Ledger.exchanging.HasRoom (Plan.size [p, q]) ∧ Ledger.exchanging.Funds 3 [p, q] ∧
      ∃ m m', Ledger.exchanging.submitAll .standard [p, q] = .ok m ∧
        Ledger.exchanging.submitAll .standard [q, p] = .ok m' ∧ m'.Equivalent m := by
  have hplanned : (BookingStage.revert.plan .reverting .reverting).toOption.any fun p =>
      (BookingStage.revert.plan .reverting .exchanging).toOption.any fun q =>
        p.outline.tenant.name = "t" ∧ q.outline.tenant.name = "t" ∧ Plan.size [p, q] = 6 ∧
          Leg.Funded 3 (Ledger.exchanging.bookOf "t").balances (Plan.legsFor "t" [p, q]) := by
    decide +kernel
  obtain ⟨p, hp, hplanned⟩ := (Option.any_eq_true _ _).1 hplanned
  obtain ⟨q, hq, hplanned⟩ := (Option.any_eq_true _ _).1 hplanned
  obtain ⟨hptenant, hqtenant, hsize, hown⟩ := of_decide_eq_true hplanned
  rw [toOption_eq_some_iff] at hp hq
  have hroom : Ledger.exchanging.HasRoom (Plan.size [p, q]) := by
    rw [hsize]
    decide
  have hfunds : Ledger.exchanging.Funds 3 [p, q] := by
    intro tenant
    by_cases htenant : tenant = "t"
    · rw [htenant]
      exact hown
    · have hlegs : Plan.legsFor tenant [p, q] = [] := by
        simp [Plan.legsFor, Plan.postingsFor, hptenant, hqtenant, Ne.symm htenant]
      rw [hlegs]
      constructor <;> simp
  obtain ⟨m, hm, -, horders⟩ := submitAll_of_perm LedgerSettings.addressable_standard
    (by
      intro plan hmem
      rcases List.mem_pair.1 hmem with rfl | rfl
      · exact ⟨_, .reverting, _, rfl, hp⟩
      · exact ⟨_, .reverting, _, rfl, hq⟩) hroom hfunds
  obtain ⟨m', hm', hequivalent⟩ := horders [q, p] (.swap p q [])
  exact ⟨p, q, hp, hq, hroom, hfunds, m, m', hm, hm', hequivalent⟩

end PaymentBooking
