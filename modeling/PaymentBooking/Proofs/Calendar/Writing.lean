import PaymentBooking.Proofs.Calendar.Reading
import PaymentBooking.Proofs.Text.Separator

/-! # Dates and payments are known by what is written

A year is written with a sign or with four digits, so it is read back whatever its length is. Month
and day are two digits each at the end, so a date written without hyphens still tells its year. And
no date shows an underscore: if the bank of a cancelled payment shows none, its correlation id has
the bank in front of the first underscore and the day in front of the second one, and all that
follows is the end-to-end id, which may have more of them.
-/

namespace PaymentBooking

namespace Date

open Calendar

variable {d d' : Date} {places n : Nat}

/-! ## Numbers -/

theorem isDigit_of_mem_padded {c : Char} (h : c ∈ padded places n) : c.isDigit :=
  Text.isDigit_of_mem_leftpad h

theorem ofDigitChars_padded (places n : Nat) : Nat.ofDigitChars 10 (padded places n) 0 = n :=
  Text.ofDigitChars_leftpad places n

theorem length_padded (hplaces : 0 < places) (h : n < 10 ^ places) :
    (padded places n).length = places := Text.length_leftpad_toDigits hplaces h

theorem places_le_length_padded (places n : Nat) : places ≤ (padded places n).length := by
  rw [padded, List.length_leftpad]
  exact le_max_left _ _

theorem padded_inj {m : Nat} (h : padded places n = padded places m) : n = m := by
  rw [← ofDigitChars_padded places n, h, ofDigitChars_padded]

/-! ## Years -/

theorem digits_padded (n : Nat) :
    Text.digits 1 (padded 4 n).length (padded 4 n) = some (n, []) := by
  have hleast := (by decide : 1 ≤ 4).trans (places_le_length_padded 4 n)
  have hread := digits_append (fun _ => isDigit_of_mem_padded) hleast []
  rwa [List.append_nil, ofDigitChars_padded] at hread

/-- A written year is read as that year. -/
theorem looseYear_yearText (d : Date) : looseYear d.yearText = some (d.year, []) := by
  rw [yearText]
  split_ifs with hneg hlong
  · simp [looseYear, Text.dropBlank, Text.isBlank, digits_padded, abs_of_neg hneg]
  · have hpos : 0 < d.year := by omega
    simp [looseYear, Text.dropBlank, Text.isBlank, digits_padded, abs_of_pos hpos]
  · -- Without a sign at most four digits are read, and there are no more.
    have habs : (d.year.natAbs : Int) = d.year := by omega
    have hlength : (padded 4 d.year.natAbs).length = 4 := length_padded (by decide) (by omega)
    have hread := looseYear_append (fun _ => isDigit_of_mem_padded) hlength []
    rwa [List.append_nil, ofDigitChars_padded, habs] at hread

theorem yearText_inj (h : d.yearText = d'.yearText) : d.year = d'.year := by
  have hread := looseYear_yearText d
  rw [h, looseYear_yearText] at hread
  exact (Prod.mk.inj (Option.some.inj hread)).1.symm

/-! ## Dates -/

theorem length_monthText (d : Date) : d.monthText.length = 2 :=
  length_padded (by decide) (d.valid.2.1.2.trans_lt (by decide))

theorem length_dayText (d : Date) : d.dayText.length = 2 := by
  have hdays : Calendar.daysIn d.year d.month ≤ 31 := by
    rw [Calendar.daysIn]
    split_ifs <;> decide
  exact length_padded (by decide) ((d.valid.2.2.2.trans hdays).trans_lt (by decide))

/-- No two dates are written alike. -/
theorem compact_inj : d.compact = d'.compact ↔ d = d' := by
  refine ⟨fun h => ?_, congrArg compact⟩
  have hchars := String.ofList_injective h
  obtain ⟨hchars, hday⟩ := List.append_inj' hchars (by rw [length_dayText, length_dayText])
  obtain ⟨hyear, hmonth⟩ := List.append_inj' hchars (by rw [length_monthText, length_monthText])
  replace hyear := yearText_inj hyear
  replace hmonth := padded_inj hmonth
  replace hday := padded_inj hday
  cases d
  cases d'
  simp only at hyear hmonth hday
  subst hyear hmonth hday
  rfl

theorem underscore_not_mem_compact (d : Date) : '_' ∉ d.compact.toList := by
  have hpadded : ∀ places n, '_' ∉ padded places n := fun places n h =>
    absurd (isDigit_of_mem_padded h) (by decide)
  have hyear : '_' ∉ d.yearText := by
    rw [yearText]
    split_ifs <;> simp [hpadded]
  simp [compact, monthText, dayText, hyear, hpadded]

end Date

/-! ## Payments -/

namespace CancellationReference

theorem toList_correlationId (r : CancellationReference) :
    r.correlationId.toList =
      r.debtorBank.toList ++
        '_' :: (r.creationDate.compact.toList ++ '_' :: r.endToEndId.toList) := by
  simp [correlationId]

/-- Of payments whose banks show no underscore, those with one correlation id have the same bank,
the same day of creation and the same end-to-end id. -/
theorem correlationId_eq_iff {r r' : CancellationReference} (h : '_' ∉ r.debtorBank.toList)
    (h' : '_' ∉ r'.debtorBank.toList) :
    r.correlationId = r'.correlationId ↔
      r.debtorBank = r'.debtorBank ∧ r.creationDate = r'.creationDate ∧
        r.endToEndId = r'.endToEndId := by
  constructor
  · intro heq
    rw [← String.toList_inj, toList_correlationId, toList_correlationId] at heq
    obtain ⟨hbank, heq⟩ := Text.eq_of_first_separator h h' heq
    obtain ⟨hdate, hid⟩ := Text.eq_of_first_separator r.creationDate.underscore_not_mem_compact
      r'.creationDate.underscore_not_mem_compact heq
    exact ⟨String.toList_inj.1 hbank, Date.compact_inj.1 (String.toList_inj.1 hdate),
      String.toList_inj.1 hid⟩
  · rintro ⟨hbank, hdate, hid⟩
    rw [correlationId, correlationId, hbank, hdate, hid]

/-- The end-to-end id may have underscores and digits that look like the day. -/
theorem correlationId_ne_dated :
    '_' ∉ "BANK".toList ∧
      (⟨"BANK", ⟨2024, 1, 31, by decide⟩, "20240131_E1"⟩ : CancellationReference).correlationId ≠
        (⟨"BANK", ⟨2024, 1, 31, by decide⟩, "E1"⟩ : CancellationReference).correlationId := by
  have hbank : '_' ∉ "BANK".toList := by decide
  refine ⟨hbank, fun h => ?_⟩
  obtain ⟨-, -, hid⟩ := (correlationId_eq_iff hbank hbank).1 h
  exact absurd hid (by decide)

/-- A bank may not: it would take the place of the day. -/
example :
    (⟨"BANK", ⟨2024, 1, 31, by decide⟩, "20240131_E1"⟩ : CancellationReference).correlationId =
      (⟨"BANK_20240131", ⟨2024, 1, 31, by decide⟩, "E1"⟩ : CancellationReference).correlationId :=
  by decide

end CancellationReference

end PaymentBooking
