import Mathlib.Tactic
import PaymentBooking.Decimal.Text
import PaymentBooking.Proofs.Text.Numeral

/-! # Decimals are read as they are written

A written decimal has all its digits, so its magnitude and its scale are read back and nothing is
rounded. Only a zero with a sign comes back without it.
-/

namespace PaymentBooking.Decimal

/-! ## Digits -/

theorem separate?_fraction {ds : List Char} (hds : ds.all Char.isDigit) :
    separate? true true ds = some ⟨[], ds⟩ := by
  induction ds with
  | nil => rfl
  | cons c ds ih =>
    rw [List.all_cons, Bool.and_eq_true] at hds
    rw [separate?, if_pos hds.1, ih hds.2]
    rfl

theorem separate?_whole {ds cs : List Char} (hds : ds.all Char.isDigit) {d : Digits}
    (h : separate? false true cs = some d) :
    separate? false true (ds ++ cs) = some { d with whole := ds ++ d.whole } := by
  induction ds with
  | nil => exact h
  | cons c ds ih =>
    rw [List.all_cons, Bool.and_eq_true] at hds
    rw [List.cons_append, separate?, if_pos hds.1, ih hds.2]
    rfl

/-- A number in digits, with or without a point and more digits. -/
theorem separate?_toDigits (n : Nat) {cs : List Char} {d : Digits}
    (h : separate? false true cs = some d) :
    separate? false false (Nat.toDigits 10 n ++ cs) =
      some { d with whole := Nat.toDigits 10 n ++ d.whole } := by
  have hall := Text.all_isDigit_toDigits n
  obtain ⟨c, ds, hn, hc⟩ := Text.toDigits_eq_cons n
  rw [hn] at hall ⊢
  rw [← separate?_whole hall h, List.cons_append, separate?, separate?, if_pos hc, if_pos hc]

theorem absorb_eq {magnitude scale : Nat} {ds : List Char} (hds : ds.all Char.isDigit)
    (hscale : scale + ds.length ≤ 28) (hlt : Nat.ofDigitChars 10 ds magnitude < 2 ^ 96) :
    absorb magnitude scale ds =
      ⟨Nat.ofDigitChars 10 ds magnitude, scale + ds.length, none⟩ := by
  induction ds generalizing magnitude scale with
  | nil => rfl
  | cons c ds ih =>
    rw [List.all_cons, Bool.and_eq_true] at hds
    rw [List.length_cons] at hscale
    have hnext : magnitude * 10 + digitValue c = 10 * magnitude + (c.toNat - '0'.toNat) := by
      rw [digitValue, Nat.mul_comm]
    rw [Nat.ofDigitChars_cons, ← hnext] at hlt ⊢
    have hplace : scale < 28 ∧ magnitude * 10 + digitValue c < 2 ^ 96 :=
      ⟨by omega, (Text.le_ofDigitChars _ _).trans_lt hlt⟩
    have hhead : ds.head? ≠ some '_' := by
      intro h
      have hmem := List.mem_of_head? h
      exact absurd (List.all_eq_true.1 hds.2 _ hmem) (by decide)
    rw [absorb, if_neg (Text.ne_of_isDigit hds.1 (by decide))]
    simp only [hplace, hhead, decide_true, decide_false, Bool.and_true, Bool.and_false, if_true]
    have hplaces : scale + 1 + ds.length = scale + (ds.length + 1) := by omega
    rw [if_neg Bool.false_ne_true, ih hds.2 (by omega) hlt, List.length_cons, hplaces]

/-! ## Written decimals -/

theorem all_isDigit_fractionDigits (places n : Nat) : (fractionDigits places n).all Char.isDigit :=
  List.all_eq_true.2 fun _ => Text.isDigit_of_mem_leftpad

theorem ofDigitChars_fractionDigits {places n w : Nat} (hpos : 0 < places) (hlt : n < 10 ^ places) :
    Nat.ofDigitChars 10 (fractionDigits places n) w = 10 ^ places * w + n := by
  rw [Nat.ofDigitChars_eq_ofDigitChars_zero, fractionDigits, Text.ofDigitChars_leftpad,
    Text.length_leftpad_toDigits hpos hlt]

theorem separate?_magnitudeText (magnitude : Nat) {scale : Nat} (hlt : magnitude < 2 ^ 96)
    (hscale : scale ≤ 28) :
    ∃ d, separate? false false (magnitudeText magnitude scale) = some d ∧
      Nat.ofDigitChars 10 d.whole 0 < 2 ^ 96 ∧
      absorb (Nat.ofDigitChars 10 d.whole 0) 0 d.fraction = ⟨magnitude, scale, none⟩ := by
  have hwhole : magnitude / 10 ^ scale < 2 ^ 96 := (Nat.div_le_self _ _).trans_lt hlt
  rw [magnitudeText]
  by_cases hzero : scale = 0
  · refine ⟨_, separate?_toDigits _ (d := ⟨[], []⟩) (by rw [if_pos hzero]; rfl), ?_⟩
    simp only [List.append_nil, Nat.ofDigitChars_ten_toDigits, hzero, pow_zero,
      Nat.div_one] at hwhole ⊢
    exact ⟨hwhole, rfl⟩
  · have hpos : 0 < scale := Nat.pos_of_ne_zero hzero
    have hmod : magnitude % 10 ^ scale < 10 ^ scale := Nat.mod_lt _ (by positivity)
    have hfraction := all_isDigit_fractionDigits scale (magnitude % 10 ^ scale)
    have hvalue := ofDigitChars_fractionDigits (w := magnitude / 10 ^ scale) hpos hmod
    rw [Nat.div_add_mod] at hvalue
    have hpoint : separate? false true ('.' :: fractionDigits scale (magnitude % 10 ^ scale)) =
        some ⟨[], fractionDigits scale (magnitude % 10 ^ scale)⟩ :=
      separate?_fraction hfraction
    rw [if_neg hzero]
    refine ⟨_, separate?_toDigits _ hpoint, ?_⟩
    have hlength : (fractionDigits scale (magnitude % 10 ^ scale)).length = scale :=
      Text.length_leftpad_toDigits hpos hmod
    simp only [List.append_nil, Nat.ofDigitChars_ten_toDigits]
    refine ⟨hwhole, ?_⟩
    rw [absorb_eq hfraction (by omega) (by rwa [hvalue]), hvalue, hlength, Nat.zero_add]

theorem splitSign_magnitudeText (negative : Bool) (magnitude scale : Nat) :
    splitSign (if negative then '-' :: magnitudeText magnitude scale
      else magnitudeText magnitude scale) = (negative, magnitudeText magnitude scale) := by
  cases negative with
  | true => rfl
  | false =>
    obtain ⟨c, ds, hn, hc⟩ := Text.toDigits_eq_cons (magnitude / 10 ^ scale)
    rw [if_neg Bool.false_ne_true, magnitudeText, hn, List.cons_append, splitSign]
    · rintro cs heq
      exact Text.ne_of_isDigit hc (by decide) (List.cons.inj heq).1
    · rintro cs heq
      exact Text.ne_of_isDigit hc (by decide) (List.cons.inj heq).1

/-- The parts of a decimal make one of the same coefficient, without the sign if it is a zero. -/
theorem exists_ofMagnitude? (d : Decimal) :
    ∃ e, ofMagnitude? d.negative d.magnitude d.scale = some e ∧ e.coefficient = d.coefficient ∧
      e.scale = d.scale := by
  obtain ⟨e, he⟩ : ∃ e, ofMagnitude? d.negative d.magnitude d.scale = some e :=
    ⟨_, dif_pos ⟨d.magnitude_lt, d.scale_le⟩⟩
  obtain ⟨hnegative, hmagnitude, hscale⟩ := ofParts?_eq_some_iff.1 he
  refine ⟨e, he, ?_, hscale⟩
  rw [coefficient, coefficient, hnegative, hmagnitude]
  by_cases hzero : d.magnitude = 0 <;> simp [hzero]

/-- The magnitude and the scale of a written decimal are read, and the sign unless it is a zero. -/
theorem read?_text_eq_ofMagnitude? (d : Decimal) :
    read? d.text = ofMagnitude? d.negative d.magnitude d.scale := by
  obtain ⟨digits, hseparate, hwhole, habsorb⟩ :=
    separate?_magnitudeText d.magnitude d.magnitude_lt d.scale_le
  have hplain : readPlain? d.text.toList = ofMagnitude? d.negative d.magnitude d.scale := by
    rw [text, String.toList_ofList, readPlain?, splitSign_magnitudeText]
    simp only [hseparate, hwhole, if_true, habsorb, Absorbed.rounded?, Option.bind_eq_bind,
      Option.bind_some]
  obtain ⟨e, he, -⟩ := exists_ofMagnitude? d
  rw [read?, hplain, he]
  rfl

/-- Every written decimal is read with its coefficient and its scale. -/
theorem exists_read?_text (d : Decimal) :
    ∃ e, read? d.text = some e ∧ e.coefficient = d.coefficient ∧ e.scale = d.scale := by
  rw [read?_text_eq_ofMagnitude?]
  exact exists_ofMagnitude? d

/-- Every decimal but a zero with a sign is read back. -/
theorem read?_text {d : Decimal} (hsign : d.negative → d.magnitude ≠ 0) :
    read? d.text = some d := by
  rw [read?_text_eq_ofMagnitude?, ofMagnitude?, ← ofParts?_self d]
  congr 1
  cases hn : d.negative with
  | false => rfl
  | true => simp [hsign hn]

theorem read?_text_of_isPositive {d : Decimal} (h : d.isPositive) : read? d.text = some d := by
  refine read?_text fun _ hzero => ?_
  have hcoefficient : d.coefficient = 0 := isZero_iff.1 (by simp [isZero, hzero])
  rw [isPositive, hcoefficient] at h
  exact absurd h (by decide)

end PaymentBooking.Decimal
