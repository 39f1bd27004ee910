import PaymentBooking.Proofs.Iban.Bounds

/-! # Which texts are IBANs

A text is an IBAN exactly if it has from 15 to 34 bytes and is made of two capital letters, two
digits and a body of digits and capital letters, and if the number that the body, the letters and
the digits write in this order leaves the remainder 1 modulo 97. Every text is checked within the
bounds of its bytes and of 32-bit words.
-/

namespace PaymentBooking.Iban

/-- The parts of an IBAN. -/
structure Parts where
  /-- The letters of the country. -/
  country : List Char
  /-- The check digits. -/
  check : List Char
  body : List Char

namespace Parts

/-- Parts of the right form, which make up a text of the right length. -/
structure Spells (p : Parts) (s : String) : Prop where
  text : s.toList = p.country ++ p.check ++ p.body
  length : 15 ≤ s.utf8ByteSize ∧ s.utf8ByteSize ≤ 34
  country : p.country.length = 2 ∧ ∀ c ∈ p.country, c.isUpper
  check : p.check.length = 2 ∧ ∀ c ∈ p.check, c.isDigit
  body : ∀ c ∈ p.body, c.isDigit ∨ c.isUpper

/-- The number that the checksum is about: what stands in front of the body is moved behind it. -/
def number (p : Parts) : Nat := Iban.number (p.body ++ p.country ++ p.check)

variable {p : Parts} {s : String}

theorem Spells.isSign (h : p.Spells s) : ∀ c ∈ s.toList, IsSign c := by
  intro c hc
  rw [h.text] at hc
  rcases List.mem_append.1 hc with hc | hc
  · rcases List.mem_append.1 hc with hc | hc
    · exact .inr (h.country.2 c hc)
    · exact .inl (h.check.2 c hc)
  · exact h.body c hc

theorem Spells.drop_four (h : p.Spells s) : s.toList.drop 4 = p.body := by
  rw [h.text, List.drop_left' (by rw [List.length_append, h.country.1, h.check.1])]

theorem Spells.take_four (h : p.Spells s) : s.toList.take 4 = p.country ++ p.check := by
  rw [h.text, List.take_left' (by rw [List.length_append, h.country.1, h.check.1])]

theorem Spells.rearranged_eq (h : p.Spells s) :
    rearranged s.toList = p.body ++ p.country ++ p.check := by
  rw [rearranged, h.drop_four, h.take_four, List.append_assoc]

/-- A text has the right parts exactly if it passes the checks in front of the checksum. -/
theorem exists_spells_iff :
    (∃ p : Parts, p.Spells s) ↔
      (15 ≤ s.utf8ByteSize ∧ s.utf8ByteSize ≤ 34) ∧ (s.toList.take 2).all Char.isUpper ∧
        ((s.toList.drop 2).take 2).all Char.isDigit ∧
          (s.toList.drop 4).all fun c => c.isDigit || c.isUpper := by
  constructor
  · rintro ⟨p, h⟩
    refine ⟨h.length, ?_, ?_, ?_⟩
    · rw [h.text, List.append_assoc, List.take_left' h.country.1]
      exact List.all_eq_true.2 h.country.2
    · rw [h.text, List.append_assoc, List.drop_left' h.country.1, List.take_left' h.check.1]
      exact List.all_eq_true.2 h.check.2
    · rw [h.drop_four]
      exact List.all_eq_true.2 fun c hc => Bool.or_eq_true_iff.2 (h.body c hc)
  · rintro ⟨hlength, hcountry, hcheck, hbody⟩
    have hfront := isSign_take_four hcountry hcheck
    have hlong : 4 < (s.toList.flatMap String.utf8EncodeChar).length := by
      rw [← bytes_eq, length_bytes]
      omega
    have hfour := four_le_length (fun c hc => toNat_lt_of_isSign (hfront c hc)) hlong
    refine ⟨⟨s.toList.take 2, (s.toList.drop 2).take 2, s.toList.drop 4⟩, ?_, hlength, ?_, ?_, ?_⟩
    · rw [← List.take_add, List.take_append_drop]
    · exact ⟨List.length_take_of_le (by omega), List.all_eq_true.1 hcountry⟩
    · refine ⟨List.length_take_of_le ?_, List.all_eq_true.1 hcheck⟩
      rw [List.length_drop]
      omega
    · exact fun c hc => Bool.or_eq_true_iff.1 (List.all_eq_true.1 hbody c hc)

/-- Only the checksum of a text with the right parts is left to be checked. -/
theorem Spells.parse_eq (h : p.Spells s) :
    parse s = if p.number % 97 = 1 then .ok ⟨s⟩ else .error .checksumMismatch := by
  obtain ⟨hlength, hcountry, hcheck, hbody⟩ := exists_spells_iff.1 ⟨p, h⟩
  have hremainder : remainder (rearranged s.toList) = p.number % 97 := by
    have hsigns : ∀ c ∈ rearranged s.toList, IsSign c := fun c hc =>
      h.isSign c (mem_rearranged.1 hc)
    rw [remainder_eq_number_mod hsigns, h.rearranged_eq, number]
  rw [parse, if_neg (by omega), hcountry, hcheck, hbody, hremainder]
  simp

theorem Spells.parse_eq_ok_iff {iban : Iban} (h : p.Spells s) :
    parse s = .ok iban ↔ iban.text = s ∧ p.number % 97 = 1 := by
  rw [h.parse_eq]
  split_ifs with hnumber
  · constructor
    · rintro ⟨⟩
      exact ⟨rfl, hnumber⟩
    · rintro ⟨rfl, -⟩
      rfl
  · exact iff_of_false nofun fun hok => hnumber hok.2

theorem exists_spells {iban : Iban} (h : parse s = .ok iban) : ∃ p : Parts, p.Spells s := by
  rw [parse] at h
  split_ifs at h with hlength hcountry hcheck hbody
  rw [Bool.not_eq_true', Bool.not_eq_false] at hcountry hcheck hbody
  exact exists_spells_iff.2 ⟨by omega, hcountry, hcheck, hbody⟩

end Parts

/-- Every text is checked within bounds, and is accepted, as it is, exactly if it has the parts of
an IBAN whose number leaves the remainder 1. -/
theorem evaluated_and_accepted_iff (s : String) :
    evaluate? s = some (parse s) ∧
      ∀ iban, parse s = .ok iban ↔
        iban.text = s ∧ ∃ p : Parts, p.Spells s ∧ p.number % 97 = 1 := by
  refine ⟨evaluate?_eq_some_parse s, fun iban => ⟨fun h => ?_, ?_⟩⟩
  · obtain ⟨p, hp⟩ := Parts.exists_spells h
    obtain ⟨htext, hnumber⟩ := hp.parse_eq_ok_iff.1 h
    exact ⟨htext, p, hp, hnumber⟩
  · rintro ⟨htext, p, hp, hnumber⟩
    exact hp.parse_eq_ok_iff.2 ⟨htext, hnumber⟩

end PaymentBooking.Iban
