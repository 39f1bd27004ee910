import Mathlib.Tactic
import PaymentBooking.Proofs.Decimal.Value

/-! # What rounding cannot do

A sum that needs too many bits loses digits from its end. Rounding keeps the sign, and it never
crosses a decimal: what is at most as large as some decimal is rounded to something at most as
large. So a magnitude below that of a decimal is always in range, and a decimal bound on the exact
sum bounds the rounded one.
-/

namespace PaymentBooking

theorem divEven_le {n d k : ℕ} (h : n ≤ k * d) : divEven n d ≤ k := by
  rcases Nat.eq_zero_or_pos d with rfl | hd
  · have hn : n = 0 := by omega
    simp [divEven, hn]
  · have hq : n / d ≤ k := Nat.div_le_of_le_mul (by rwa [Nat.mul_comm])
    rcases Nat.lt_or_ge (n / d) k with hlt | hge
    · rcases divEven_eq_or n d with he | he <;> omega
    · -- The quotient is `k` itself, so nothing is left over.
      have hk : n / d = k := by omega
      have hle : k * d ≤ n := hk ▸ Nat.div_mul_le_self n d
      have hn : n = k * d := by omega
      rw [hn, divEven_mul_right k hd]

theorem divEven_le_of_div_lt {n d b : ℕ} (h : n / d < b) : divEven n d ≤ b := by
  rcases divEven_eq_or n d with he | he <;> omega

/-- A quotient is rounded to an even number, or to more, from half below that number on. -/
theorem le_divEven_iff {n d k : ℕ} (hd : 0 < d) (heven : k % 2 = 0) :
    k ≤ divEven n d ↔ 2 * (k * d) ≤ 2 * n + d := by
  have hn : n = d * (n / d) + n % d := (Nat.div_add_mod n d).symm
  have hr := Nat.mod_lt n hd
  rcases lt_trichotomy k (n / d + 1) with hlt | heq | hgt
  · -- The quotient is there already.
    have hle : k * d ≤ d * (n / d) := by
      rw [Nat.mul_comm d]
      exact Nat.mul_le_mul_right d (Nat.le_of_lt_succ hlt)
    have hquotient : k ≤ divEven n d := by
      rcases divEven_eq_or n d with he | he <;> omega
    exact iff_of_true hquotient (by omega)
  · -- Only if it is rounded up.
    have hk : k * d = d * (n / d) + d := by rw [heq, Nat.add_mul, Nat.one_mul, Nat.mul_comm]
    simp only [divEven]
    split_ifs <;> omega
  · have hle : d * (n / d) + 2 * d ≤ k * d := by
      have := Nat.mul_le_mul_right d (show n / d + 2 ≤ k by omega)
      rwa [Nat.add_mul, Nat.mul_comm (n / d)] at this
    have hquotient : ¬k ≤ divEven n d := by
      rcases divEven_eq_or n d with he | he <;> omega
    exact iff_of_false hquotient (by omega)

namespace Decimal

/-- A magnitude that rounding settles is at most as large as every decimal that bounds the exact
one; `dropped` digits have been given up before. -/
private theorem settle?_le {M dropped scale k t m s : ℕ} (hk : k < 2 ^ 96)
    (hmin : dropped = 0 ∨ 2 ^ 96 ≤ M / 10 ^ (dropped - 1))
    (hM : M * 10 ^ t ≤ k * 10 ^ (scale + dropped))
    (h : settle? (divEven M (10 ^ dropped)) scale = some (m, s)) :
    m * 10 ^ t ≤ k * 10 ^ s := by
  have hpow : ∀ n : ℕ, 0 < 10 ^ n := fun n => by positivity
  -- A bound with few digits is a bound on the grid of the result.
  have hgrid : ∀ s d : ℕ, t ≤ s → s + d = scale + dropped → M ≤ k * 10 ^ (s - t) * 10 ^ d := by
    intro s d hts hsd
    refine Nat.le_of_mul_le_mul_right (hM.trans_eq ?_) (hpow t)
    rw [← hsd, Nat.mul_assoc, Nat.mul_assoc, ← Nat.pow_add, ← Nat.pow_add]
    congr 2
    omega
  have hback : ∀ s n : ℕ, t ≤ s → n ≤ k * 10 ^ (s - t) → n * 10 ^ t ≤ k * 10 ^ s := by
    intro s n hts hn
    refine (Nat.mul_le_mul_right _ hn).trans_eq ?_
    rw [Nat.mul_assoc, ← Nat.pow_add, Nat.sub_add_cancel hts]
  simp only [settle?] at h
  split at h
  · rename_i hlt
    obtain ⟨rfl, rfl⟩ := Prod.mk.inj (Option.some.inj h)
    rcases Nat.lt_or_ge scale t with hst | hst
    · -- The bound has more digits than the result, so no digit was dropped.
      have hd : dropped = 0 := by
        rcases hmin with hd | hd
        · exact hd
        · by_contra hne
          have hMlow : 2 ^ 96 * 10 ^ (dropped - 1) ≤ M := (Nat.le_div_iff_mul_le (hpow _)).1 hd
          have hexp : scale + dropped ≤ dropped - 1 + t := by omega
          have : k * 10 ^ (scale + dropped) < M * 10 ^ t := calc
            k * 10 ^ (scale + dropped) < 2 ^ 96 * 10 ^ (scale + dropped) :=
              Nat.mul_lt_mul_of_pos_right hk (hpow _)
            _ ≤ 2 ^ 96 * 10 ^ (dropped - 1 + t) :=
              Nat.mul_le_mul_left _ (Nat.pow_le_pow_right (by decide) hexp)
            _ = 2 ^ 96 * 10 ^ (dropped - 1) * 10 ^ t := by rw [Nat.pow_add, Nat.mul_assoc]
            _ ≤ M * 10 ^ t := Nat.mul_le_mul_right _ hMlow
          omega
      subst hd
      simpa [divEven_one] using hM
    · exact hback _ _ hst (divEven_le (hgrid _ _ hst rfl))
  · rename_i hge
    split at h
    · simp at h
    · rename_i s'
      obtain ⟨rfl, rfl⟩ := Prod.mk.inj (Option.some.inj h)
      rcases Nat.lt_or_ge s' t with hst | hst
      · -- The bound would have to be out of range itself.
        have hkd : M ≤ k * 10 ^ dropped := by
          refine Nat.le_of_mul_le_mul_right ?_ (hpow (s' + 1))
          calc M * 10 ^ (s' + 1) ≤ M * 10 ^ t :=
                Nat.mul_le_mul_left _ (Nat.pow_le_pow_right (by decide) hst)
            _ ≤ k * 10 ^ (s' + 1 + dropped) := hM
            _ = k * 10 ^ dropped * 10 ^ (s' + 1) := by
                rw [Nat.mul_assoc, ← Nat.pow_add, Nat.add_comm]
        exact absurd (divEven_le hkd) (by omega)
      · refine hback _ _ hst (divEven_le (divEven_le ?_))
        have := hgrid s' (dropped + 1) hst (by omega)
        rwa [Nat.pow_succ, Nat.mul_comm (10 ^ dropped), ← Nat.mul_assoc] at this

private theorem fitFrom?_le {M k t m s : ℕ} (hk : k < 2 ^ 96) (scale : ℕ) (dropped : ℕ)
    (hmin : dropped = 0 ∨ 2 ^ 96 ≤ M / 10 ^ (dropped - 1))
    (hM : M * 10 ^ t ≤ k * 10 ^ (scale + dropped))
    (h : fitFrom? M dropped scale = some (m, s)) : m * 10 ^ t ≤ k * 10 ^ s := by
  induction scale generalizing dropped with
  | zero =>
    simp only [fitFrom?] at h
    split at h
    · exact settle?_le hk hmin hM h
    · simp at h
  | succ scale ih =>
    simp only [fitFrom?] at h
    split at h
    · exact settle?_le hk hmin hM h
    · rename_i hge
      refine ih (dropped + 1) (.inr (by simpa using hge)) ?_ h
      rwa [Nat.add_comm dropped, ← Nat.add_assoc]

/-- Rounding never crosses a decimal. -/
theorem fit?_le {M scale k t m s : ℕ} (hk : k < 2 ^ 96) (hM : M * 10 ^ t ≤ k * 10 ^ scale)
    (h : fit? M scale = some (m, s)) : m * 10 ^ t ≤ k * 10 ^ s :=
  fitFrom?_le hk scale 0 (.inl rfl) hM h

private theorem settle?_bounds {M scale m s : ℕ} (hM : M ≤ 2 ^ 96)
    (h : settle? M scale = some (m, s)) : m < 2 ^ 96 ∧ s ≤ scale := by
  simp only [settle?] at h
  split at h
  · obtain ⟨rfl, rfl⟩ := Prod.mk.inj (Option.some.inj h)
    exact ⟨‹_›, le_rfl⟩
  · split at h
    · simp at h
    · obtain ⟨rfl, rfl⟩ := Prod.mk.inj (Option.some.inj h)
      have : divEven M 10 ≤ 2 ^ 95 := divEven_le (hM.trans (by norm_num))
      exact ⟨by omega, Nat.le_succ _⟩

private theorem fitFrom?_bounds {M m s : ℕ} (scale dropped : ℕ)
    (h : fitFrom? M dropped scale = some (m, s)) : m < 2 ^ 96 ∧ s ≤ scale := by
  induction scale generalizing dropped with
  | zero =>
    simp only [fitFrom?] at h
    split at h
    · exact settle?_bounds (divEven_le_of_div_lt ‹_›) h
    · simp at h
  | succ scale ih =>
    simp only [fitFrom?] at h
    split at h
    · exact settle?_bounds (divEven_le_of_div_lt ‹_›) h
    · exact ⟨(ih _ h).1, (ih _ h).2.trans (Nat.le_succ _)⟩

/-- A rounded magnitude is in range, and its scale has not grown. -/
theorem fit?_bounds {M scale m s : ℕ} (h : fit? M scale = some (m, s)) :
    m < 2 ^ 96 ∧ s ≤ scale := fitFrom?_bounds scale 0 h

theorem settle?_eq_none_iff {m s : ℕ} : settle? m s = none ↔ 2 ^ 96 ≤ m ∧ s = 0 := by
  by_cases hlt : m < 2 ^ 96
  · rw [settle?_of_lt hlt]
    exact iff_of_false (by simp) fun h => absurd hlt (Nat.not_lt.2 h.1)
  · cases s with
    | zero => exact iff_of_true (if_neg hlt) ⟨Nat.le_of_not_lt hlt, rfl⟩
    | succ s =>
      rw [settle?, if_neg hlt]
      simp

private theorem fitFrom?_eq_none_iff {M : ℕ} (scale dropped : ℕ) :
    fitFrom? M dropped scale = none ↔ 2 ^ 96 ≤ divEven M (10 ^ (scale + dropped)) := by
  induction scale generalizing dropped with
  | zero =>
    rw [fitFrom?, Nat.zero_add]
    by_cases hlt : M / 10 ^ dropped < 2 ^ 96
    · rw [if_pos hlt, settle?_eq_none_iff]
      exact and_iff_left rfl
    · have hle : 2 ^ 96 ≤ divEven M (10 ^ dropped) := by
        rcases divEven_eq_or M (10 ^ dropped) with he | he <;> omega
      rw [if_neg hlt]
      exact iff_of_true rfl hle
  | succ scale ih =>
    rw [fitFrom?, Nat.add_right_comm, Nat.add_assoc]
    by_cases hlt : M / 10 ^ dropped < 2 ^ 96
    · -- With a digit to spare rounding settles, and with one digit less the quotient is small.
      have hsmall : M / 10 ^ (scale + (dropped + 1)) ≤ M / 10 ^ dropped / 10 := by
        rw [Nat.div_div_eq_div_mul, ← Nat.pow_succ]
        exact Nat.div_le_div_left (Nat.pow_le_pow_right (by decide) (by omega)) (by positivity)
      have hquotient : ¬2 ^ 96 ≤ divEven M (10 ^ (scale + (dropped + 1))) := by
        rcases divEven_eq_or M (10 ^ (scale + (dropped + 1))) with he | he <;> omega
      rw [if_pos hlt, settle?_eq_none_iff]
      exact iff_of_false (fun h => Nat.succ_ne_zero scale h.2) hquotient
    · rw [if_neg hlt, ih (dropped + 1)]

/-- A magnitude cannot be rounded exactly from half a unit below the bound on. -/
theorem fit?_eq_none_iff {M scale : ℕ} :
    fit? M scale = none ↔ 2 * (2 ^ 96 * 10 ^ scale) ≤ 2 * M + 10 ^ scale := by
  rw [fit?, fitFrom?_eq_none_iff, Nat.add_zero]
  exact le_divEven_iff (by positivity) (by decide)

theorem fit?_isSome {M scale k : ℕ} (hk : k < 2 ^ 96) (hM : M ≤ k * 10 ^ scale) :
    ∃ r, fit? M scale = some r := by
  have hpos : 0 < 10 ^ scale := by positivity
  have hbound : (k + 1) * 10 ^ scale ≤ 2 ^ 96 * 10 ^ scale := Nat.mul_le_mul_right _ hk
  rw [Nat.add_one_mul] at hbound
  rw [← Option.ne_none_iff_exists', ne_eq, fit?_eq_none_iff]
  omega

end Decimal

end PaymentBooking
