import Mathlib.Tactic
import PaymentBooking.Proofs.Decimal.Rounding

/-! # Sums of decimals and their values

A sum whose exact coefficient is in range has the exact value. Any other sum keeps the sign of the
exact one and does not pass a decimal that bounds it, so what is added to a balance never lowers it
below zero or below itself, and what is taken from a balance that covers it leaves a decimal that is
not below zero.
-/

namespace PaymentBooking.Decimal

/-- The exact sum fits a decimal at the larger scale of the two, so nothing is rounded. -/
def SumFits (a b : Decimal) : Prop := (exactSum a b).1.natAbs < 2 ^ 96

instance (a b : Decimal) : Decidable (SumFits a b) := inferInstanceAs (Decidable (_ < _))

/-! ## Rounding a coefficient -/

theorem round?_eq_some {n : ℤ} {scale : ℕ} {d : Decimal} (h : round? n scale = some d) :
    fit? n.natAbs scale = some (d.magnitude, d.scale) ∧ (d.negative → n < 0) ∧
      (n < 0 → d.negative ∨ d.magnitude = 0) := by
  obtain ⟨⟨m, s⟩, hfit, hd⟩ := Option.bind_eq_some_iff.1 h
  obtain ⟨hneg, hm, hs⟩ := ofParts?_eq_some_iff.1 hd
  refine ⟨by rw [hfit, hm, hs], fun hn => ?_, fun hn => ?_⟩
  · rw [hneg] at hn
    exact of_decide_eq_true (Bool.and_eq_true_iff.1 hn).1
  · by_cases hz : m = 0
    · exact .inr (hm.trans hz)
    · exact .inl (by simp [hneg, hn, hz])

theorem round?_of_fit? {n : ℤ} {scale m s : ℕ} (hscale : scale ≤ 28)
    (h : fit? n.natAbs scale = some (m, s)) : ∃ d, round? n scale = some d := by
  obtain ⟨hm, hs⟩ := fit?_bounds h
  exact ⟨_, by rw [round?, h]; exact dif_pos ⟨hm, hs.trans hscale⟩⟩

theorem round?_nonneg {n : ℤ} {scale : ℕ} {d : Decimal} (hn : 0 ≤ n)
    (h : round? n scale = some d) : 0 ≤ d.toRat := by
  have hneg : d.negative = false := by
    cases hd : d.negative with
    | false => rfl
    | true => exact absurd ((round?_eq_some h).2.1 hd) (by omega)
  rw [toRat, coefficient, hneg, if_neg Bool.false_ne_true]
  positivity

/-- A decimal that bounds the exact value bounds the rounded one. -/
theorem abs_round?_le {n : ℤ} {scale : ℕ} {d b : Decimal}
    (hb : |(n : ℚ) / 10 ^ scale| ≤ |b.toRat|) (h : round? n scale = some d) :
    |d.toRat| ≤ |b.toRat| := by
  obtain ⟨hfit, -, -⟩ := round?_eq_some h
  rw [abs_div, abs_of_pos (pow_ten_pos scale), abs_toRat, ← Int.cast_abs, ← Int.natCast_natAbs,
    div_le_div_iff₀ (pow_ten_pos _) (pow_ten_pos _)] at hb
  have hle := fit?_le b.magnitude_lt (by exact_mod_cast hb) hfit
  rw [abs_toRat, abs_toRat, div_le_div_iff₀ (pow_ten_pos _) (pow_ten_pos _)]
  exact_mod_cast hle

theorem round?_isSome {n : ℤ} {scale : ℕ} {b : Decimal} (hscale : scale ≤ 28)
    (hb : |(n : ℚ) / 10 ^ scale| ≤ |b.toRat|) : ∃ d, round? n scale = some d := by
  have hwhole : |b.toRat| ≤ b.magnitude := by
    rw [abs_toRat]
    exact div_le_self (by positivity) (one_le_pow₀ (by norm_num))
  have hn : n.natAbs ≤ b.magnitude * 10 ^ scale := by
    have := hb.trans hwhole
    rw [abs_div, abs_of_pos (pow_ten_pos scale), div_le_iff₀ (pow_ten_pos scale), ← Int.cast_abs,
      ← Int.natCast_natAbs] at this
    exact_mod_cast this
  obtain ⟨⟨m, s⟩, hfit⟩ := fit?_isSome b.magnitude_lt hn
  exact round?_of_fit? hscale hfit

/-- A coefficient has no decimal exactly from half a unit below the range on. -/
theorem round?_eq_none_iff {n : ℤ} {scale : ℕ} (hscale : scale ≤ 28) :
    round? n scale = none ↔ 2 ^ 96 - 1 / 2 ≤ |(n : ℚ) / 10 ^ scale| := by
  have hfit : round? n scale = none ↔ fit? n.natAbs scale = none := by
    cases hfit : fit? n.natAbs scale with
    | none => simp [round?, hfit]
    | some r =>
      obtain ⟨d, hd⟩ := round?_of_fit? hscale hfit
      simp [hd]
  rw [hfit, fit?_eq_none_iff, abs_div, abs_of_pos (pow_ten_pos scale),
    le_div_iff₀ (pow_ten_pos scale), ← Int.cast_abs, ← Int.natCast_natAbs, Int.cast_natCast]
  have hcast : 2 * (2 ^ 96 * 10 ^ scale) ≤ 2 * n.natAbs + 10 ^ scale ↔
      2 * (2 ^ 96 * (10 : ℚ) ^ scale) ≤ 2 * n.natAbs + 10 ^ scale := by
    exact_mod_cast Iff.rfl
  rw [hcast]
  constructor
  · intro h
    linarith
  · intro h
    linarith

theorem round?_of_lt {n : ℤ} {scale : ℕ} (hscale : scale ≤ 28) (hn : n.natAbs < 2 ^ 96) :
    ∃ d, round? n scale = some d ∧ d.toRat = n / 10 ^ scale := by
  obtain ⟨d, hd⟩ := round?_of_fit? hscale (fit?_of_lt hn)
  refine ⟨d, hd, ?_⟩
  obtain ⟨hfit, hpos, hneg⟩ := round?_eq_some hd
  rw [fit?_of_lt hn] at hfit
  obtain ⟨hm, hs⟩ := Prod.mk.inj (Option.some.inj hfit)
  have hc : d.coefficient = n := by
    rw [coefficient]
    split
    · have := hpos ‹_›
      omega
    · rcases lt_or_ge n 0 with hlt | hge
      · rcases hneg hlt with h | h
        · contradiction
        · omega
      · omega
  rw [toRat, hc, hs]

/-! ## Sums and differences -/

/-- A sum with a zero is exact; any other one is rounded. -/
theorem add?_cases {a b c : Decimal} (h : add? a b = some c) :
    c.toRat = a.toRat + b.toRat ∨ round? (exactSum a b).1 (exactSum a b).2 = some c := by
  rw [add?] at h
  split at h
  · rename_i ha
    exact .inl (by rw [← Option.some.inj h, (isZero_iff_toRat a).1 ha, zero_add])
  · split at h
    · rename_i hb
      exact .inl (by rw [← Option.some.inj h, (isZero_iff_toRat b).1 hb, add_zero])
    · exact .inr h

theorem add?_of_round? {a b : Decimal}
    (h : ∃ c, round? (exactSum a b).1 (exactSum a b).2 = some c) : ∃ c, add? a b = some c := by
  rw [add?]
  split
  · exact ⟨_, rfl⟩
  · split
    · exact ⟨_, rfl⟩
    · exact h

theorem abs_toRat_le (d : Decimal) : |d.toRat| ≤ 2 ^ 96 - 1 := by
  have hle : (d.magnitude : ℚ) ≤ 2 ^ 96 - 1 := by
    have hmagnitude := d.magnitude_lt
    rw [le_sub_iff_add_le]
    exact_mod_cast hmagnitude
  rw [abs_toRat]
  exact (div_le_self (by positivity) (one_le_pow₀ (by norm_num))).trans hle

/-- There is no sum exactly from half a unit below the range on. -/
theorem add?_eq_none_iff {a b : Decimal} :
    add? a b = none ↔ 2 ^ 96 - 1 / 2 ≤ |a.toRat + b.toRat| := by
  have hin : ∀ d : Decimal, ¬2 ^ 96 - 1 / 2 ≤ |d.toRat| := by
    intro d hle
    linarith [d.abs_toRat_le]
  rw [add?]
  by_cases ha : a.isZero
  · rw [if_pos ha, (isZero_iff_toRat a).1 ha, zero_add]
    exact iff_of_false (Option.some_ne_none b) (hin b)
  · rw [if_neg ha]
    by_cases hb : b.isZero
    · rw [if_pos hb, (isZero_iff_toRat b).1 hb, add_zero]
      exact iff_of_false (Option.some_ne_none a) (hin a)
    · rw [if_neg hb, round?_eq_none_iff (exactSum_scale_le a b), exactSum_div]

/-- A sum that fits has the exact value. -/
theorem toRat_of_add? {a b c : Decimal} (hfit : SumFits a b) (h : add? a b = some c) :
    c.toRat = a.toRat + b.toRat := by
  rcases add?_cases h with hexact | hround
  · exact hexact
  · obtain ⟨d, hd, hval⟩ := round?_of_lt (exactSum_scale_le a b) hfit
    rw [← Option.some.inj (hd.symm.trans hround), hval, exactSum_div]

/-- Among decimals of at most so many digits behind the point, a sum in range is exact and has no
more digits. -/
theorem add?_of_lt {a b : Decimal} {k : ℕ} (ha : a.scale ≤ k) (hb : b.scale ≤ k)
    (h : |a.toRat + b.toRat| * 10 ^ k < 2 ^ 96) :
    ∃ c, add? a b = some c ∧ c.toRat = a.toRat + b.toRat ∧ c.scale ≤ k := by
  have hscale : (exactSum a b).2 ≤ k := max_le ha hb
  have hfit : SumFits a b := by
    have hpow : (10 : ℚ) ^ (exactSum a b).2 ≤ 10 ^ k := pow_le_pow_right₀ (by norm_num) hscale
    have hexact : ((exactSum a b).1 : ℚ) = (a.toRat + b.toRat) * 10 ^ (exactSum a b).2 := by
      rw [← exactSum_div, div_mul_cancel₀ _ (pow_ten_pos _).ne']
    have hlt : |((exactSum a b).1 : ℚ)| < 2 ^ 96 := by
      rw [hexact, abs_mul, abs_of_pos (pow_ten_pos _)]
      exact (mul_le_mul_of_nonneg_left hpow (abs_nonneg _)).trans_lt h
    rw [← Int.cast_abs, ← Int.natCast_natAbs] at hlt
    exact_mod_cast hlt
  obtain ⟨d, hround, -⟩ := round?_of_lt (exactSum_scale_le a b) hfit
  obtain ⟨c, hc⟩ := add?_of_round? ⟨d, hround⟩
  refine ⟨c, hc, toRat_of_add? hfit hc, ?_⟩
  rw [add?] at hc
  split_ifs at hc
  · exact Option.some.inj hc ▸ hb
  · exact Option.some.inj hc ▸ ha
  · exact (fit?_bounds (round?_eq_some hc).1).2.trans hscale

theorem exactSum_nonneg_iff (a b : Decimal) : 0 ≤ (exactSum a b).1 ↔ 0 ≤ a.toRat + b.toRat := by
  rw [← exactSum_div, le_div_iff₀ (pow_ten_pos _), zero_mul]
  exact Int.cast_nonneg_iff.symm

theorem add?_nonneg {a b c : Decimal} (hab : 0 ≤ a.toRat + b.toRat) (h : add? a b = some c) :
    0 ≤ c.toRat := by
  rcases add?_cases h with hexact | hround
  · exact hab.trans_eq hexact.symm
  · exact round?_nonneg ((exactSum_nonneg_iff a b).2 hab) hround

/-- What is added to a decimal leaves it above zero or above itself, however the sum is rounded. -/
theorem min_zero_le_of_add? {a b c : Decimal} (hb : 0 ≤ b.toRat) (h : add? a b = some c) :
    min 0 a.toRat ≤ c.toRat := by
  rcases le_or_gt 0 (a.toRat + b.toRat) with hnonneg | hneg
  · exact (min_le_left _ _).trans (add?_nonneg hnonneg h)
  · refine (min_le_right _ _).trans ?_
    rcases add?_cases h with hexact | hround
    · linarith
    · -- The exact sum lies between `a` and zero, and so does the rounded one.
      have hbound : |((exactSum a b).1 : ℚ) / 10 ^ (exactSum a b).2| ≤ |a.toRat| := by
        rw [exactSum_div, abs_of_neg hneg, abs_of_neg (by linarith)]
        linarith
      have hle := abs_round?_le hbound hround
      rw [abs_of_neg (show a.toRat < 0 by linarith)] at hle
      linarith [neg_abs_le c.toRat]

theorem sub?_of_le {a b : Decimal} (hb : 0 ≤ b.toRat) (hba : b.toRat ≤ a.toRat) :
    ∃ c, sub? a b = some c ∧ 0 ≤ c.toRat := by
  have hdiff : 0 ≤ a.toRat + b.negate.toRat := by
    rw [toRat_negate]
    linarith
  have hbound : |((exactSum a b.negate).1 : ℚ) / 10 ^ (exactSum a b.negate).2| ≤ |a.toRat| := by
    rw [exactSum_div, abs_of_nonneg hdiff, abs_of_nonneg (hb.trans hba), toRat_negate]
    linarith
  obtain ⟨c, hc⟩ := add?_of_round? (round?_isSome (exactSum_scale_le _ _) hbound)
  exact ⟨c, hc, add?_nonneg hdiff hc⟩

end PaymentBooking.Decimal
