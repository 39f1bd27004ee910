import PaymentBooking.Proofs.Dict
import PaymentBooking.Proofs.Json.Scalar

/-! # Written objects are read back

An object of texts and whole numbers is read as it was written, except that its members come in the
order of their names. Whatever the texts are, they cannot end a member or the object.
-/

namespace PaymentBooking.Json

/-- A value that is read back as itself wherever it may stand. -/
def IsReadable (v : Json) : Prop :=
  ∃ raw, (∀ fuel rest, Follows rest →
      readValue? (fuel + 1) (v.write ++ rest) = some (raw, rest)) ∧
    ∀ depth, raw.valueWithin? depth = some v

theorem isReadable_text (s : String) : (Json.text s).IsReadable := by
  refine ⟨.text (s.toList.map TextUnit.ofChar), fun fuel rest _ => ?_, fun depth => ?_⟩
  · have hread := readUnits?_flatMap s.toList rest
    simp [write, writeText, readValue?, skipBlank, isBlank, hread]
  · rw [Raw.valueWithin?, textOf?_ofChar]
    rfl

/-- A value that begins like a numeral is read as one. -/
private theorem readValue?_cons {c : Char} (hc : c = '-' ∨ c.isDigit) (fuel : Nat)
    (cs : List Char) :
    readValue? (fuel + 1) (c :: cs) =
      (readNumeral? (c :: cs)).map fun p => (.number p.1, p.2) := by
  have hne : ∀ d, d ≠ '-' → d.isDigit = false → c ≠ d := by
    rintro d hminus hdigit rfl
    rcases hc with hc | hc
    · exact hminus hc
    · rw [hdigit] at hc
      cases hc
  have hblank : isBlank c = false := by
    simp [isBlank, hne ' ' (by decide) rfl, hne '\t' (by decide) rfl, hne '\n' (by decide) rfl,
      hne '\r' (by decide) rfl]
  rw [readValue?, skipBlank, List.dropWhile_cons_of_neg (by simp [hblank])]
  split
  -- All but the last case begin with a character of their own.
  any_goals
    rename_i heq
    exact absurd (List.cons.inj heq).1 (hne _ (by decide) (by decide))
  rfl

theorem isReadable_whole (n : Whole) : (Json.number (.whole n)).IsReadable := by
  refine ⟨.number (.ofInt n.value), fun fuel rest h => ?_, fun depth => ?_⟩
  · have hread := readNumeral?_toString n.value h
    obtain ⟨c, cs, hn, hc⟩ := Text.toString_eq_cons n.value
    rw [hn] at hread
    rw [write, Number.text, hn, List.cons_append, readValue?_cons hc, ← List.cons_append, hread]
    rfl
  · rw [Raw.valueWithin?, number?_ofInt]
    rfl

theorem isReadable_ofInt64 (n : Int64) : (Json.ofInt64 n).IsReadable := isReadable_whole _

theorem parse?_print {v : Json} (h : v.IsReadable) : parse? v.print = some v := by
  obtain ⟨raw, hread, hvalue⟩ := h
  have hchars : v.print.toList = v.write ++ [] := by
    rw [print, String.toList_ofList, List.append_nil]
  have hraw : readRaw? v.print = some raw := by
    rw [readRaw?, hchars]
    simp only [hread _ [] nofun]
    rfl
  rw [parse?, hraw, Option.bind_some]
  exact hvalue _

/-! ## Members -/

theorem readName?_writeText (name : String) (cs : List Char) :
    readName? (writeText name ++ ':' :: cs) = some (name.toList.map TextUnit.ofChar, cs) := by
  have hread := readUnits?_flatMap name.toList (':' :: cs)
  simp [writeText, readName?, skipBlank, isBlank, hread]

theorem readMembers?_comma {fuel : Nat} {name : String} {v : Json} {raw : Raw} {cs : List Char}
    (h : readValue? fuel (v.write ++ ',' :: cs) = some (raw, ',' :: cs)) :
    readMembers? (fuel + 1) (writeMember name v.write ++ ',' :: cs) =
      (readMembers? fuel cs).map fun p =>
        ((name.toList.map TextUnit.ofChar, raw) :: p.1, p.2) := by
  rw [writeMember, List.append_assoc, List.cons_append, readMembers?, readName?_writeText]
  simp [h, skipBlank, isBlank]

theorem readMembers?_brace {fuel : Nat} {name : String} {v : Json} {raw : Raw} {cs : List Char}
    (h : readValue? fuel (v.write ++ '\x7d' :: cs) = some (raw, '\x7d' :: cs)) :
    readMembers? (fuel + 1) (writeMember name v.write ++ '\x7d' :: cs) =
      some ([(name.toList.map TextUnit.ofChar, raw)], cs) := by
  rw [writeMember, List.append_assoc, List.cons_append, readMembers?, readName?_writeText]
  simp [h, skipBlank, isBlank]

/-- Members are read up to the brace behind the last of them. -/
theorem readMembers?_separated {m : String × Json} {members : List (String × Json)}
    (h : ∀ n ∈ m :: members, n.2.IsReadable) :
    ∃ raws, (∀ fuel rest, members.length < fuel →
        readMembers? (fuel + 1) (separated (writeMembers (m :: members)) ++ '\x7d' :: rest) =
          some (raws, rest)) ∧
      ∀ depth, Raw.membersWithin? depth raws = some (m :: members) := by
  induction members generalizing m with
  | nil =>
    obtain ⟨raw, hread, hvalue⟩ := h m List.mem_cons_self
    refine ⟨[(m.1.toList.map TextUnit.ofChar, raw)], fun fuel rest hfuel => ?_, fun depth => ?_⟩
    · obtain ⟨f, rfl⟩ := Nat.exists_eq_add_one_of_ne_zero (Nat.ne_zero_of_lt hfuel)
      exact readMembers?_brace (hread f _ (follows_cons (by decide)))
    · simp [Raw.membersWithin?, textOf?_ofChar, hvalue]
  | cons n members ih =>
    obtain ⟨raw, hread, hvalue⟩ := h m List.mem_cons_self
    obtain ⟨raws, hreads, hvalues⟩ := ih fun k hk => h k (List.mem_cons_of_mem _ hk)
    refine ⟨(m.1.toList.map TextUnit.ofChar, raw) :: raws, fun fuel rest hfuel => ?_,
      fun depth => ?_⟩
    · rw [List.length_cons] at hfuel
      obtain ⟨f, rfl⟩ := Nat.exists_eq_add_one_of_ne_zero (Nat.ne_zero_of_lt hfuel)
      have hseparated : separated (writeMembers (m :: n :: members)) =
          writeMember m.1 m.2.write ++ ',' :: separated (writeMembers (n :: members)) := rfl
      rw [hseparated, List.append_assoc, List.cons_append,
        readMembers?_comma (hread f _ (follows_cons (by decide))), hreads f rest (by omega)]
      rfl
    · simp [Raw.membersWithin?, textOf?_ofChar, hvalue, hvalues]

theorem length_le_length_separated (items : List (List Char)) :
    items.length ≤ (separated items).length + 1 := by
  induction items with
  | nil => exact Nat.zero_le _
  | cons item items ih =>
    cases items with
    | nil => simp [separated]
    | cons next items =>
      have hseparated : separated (item :: next :: items) =
          item ++ ',' :: separated (next :: items) := rfl
      rw [hseparated, List.length_append]
      simp only [List.length_cons] at ih ⊢
      omega

/-- A written object is read with its members in the order of their names. -/
theorem parse?_print_object {members : List (String × Json)}
    (h : ∀ m ∈ members, m.2.IsReadable) :
    parse? (print (.object members)) = some (ofMembers members) := by
  cases members with
  | nil => rfl
  | cons m members =>
    obtain ⟨raws, hreads, hvalues⟩ := readMembers?_separated h
    have hchars : (print (.object (m :: members))).toList =
        '\x7b' :: (separated (writeMembers (m :: members)) ++ ['\x7d']) := by
      rw [print, String.toList_ofList, write, List.cons_append]
    have hlength : members.length < 2 * (print (.object (m :: members))).toList.length := by
      have hle := length_le_length_separated (writeMembers (m :: members))
      rw [writeMembers_eq_map, List.length_map, ← writeMembers_eq_map] at hle
      rw [hchars]
      simp only [List.length_cons, List.length_append, List.length_nil] at hle ⊢
      omega
    have hquote : ∃ cs, separated (writeMembers (m :: members)) ++ ['\x7d'] = '"' :: cs := by
      cases members with
      | nil => exact ⟨_, rfl⟩
      | cons n members => exact ⟨_, rfl⟩
    have hvalue : readValue? (2 * (print (.object (m :: members))).toList.length + 2)
        (print (.object (m :: members))).toList = some (.object raws, []) := by
      have hmembers := hreads _ [] hlength
      obtain ⟨cs, hcs⟩ := hquote
      rw [hcs] at hmembers hchars
      rw [hchars] at hmembers ⊢
      simpa [readValue?, skipBlank, isBlank] using hmembers
    rw [parse?, readRaw?, hvalue]
    simp [skipBlank, Raw.value?, Raw.maxDepth, Raw.valueWithin?, hvalues]

theorem member?_ofMembers {name : String} {v : Json} {members : List (String × Json)}
    (hnodup : (members.map Prod.fst).Nodup) (h : (name, v) ∈ members) :
    (ofMembers members).member? name = some v :=
  Dict.find?_insertMany_of_mem hnodup h _

theorem member?_ofMembers_eq_some_iff {name : String} {v : Json} {members : List (String × Json)}
    (hnodup : (members.map Prod.fst).Nodup) :
    (ofMembers members).member? name = some v ↔ (name, v) ∈ members := by
  refine ⟨fun h => ?_, member?_ofMembers hnodup⟩
  by_cases hname : name ∈ members.map Prod.fst
  · obtain ⟨⟨_, w⟩, hmem, rfl⟩ := List.mem_map.1 hname
    rw [member?_ofMembers hnodup hmem] at h
    cases h
    exact hmem
  · have hnone : (ofMembers members).member? name = none :=
      Dict.find?_insertMany_of_not_mem hname .empty
    rw [hnone] at h
    cases h

end PaymentBooking.Json
