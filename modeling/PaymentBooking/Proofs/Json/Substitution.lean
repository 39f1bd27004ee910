import PaymentBooking.Batch
import PaymentBooking.Proofs.Json.Object
import PaymentBooking.Proofs.Text.Numeral
import PaymentBooking.Proofs.Text.Replace

/-! # Numbers put into written texts

A written object in which a number has been put in the place of every placeholder is the written
object whose texts have it put in. The placeholder shows neither a quote nor a backslash, so it
reaches neither across a text nor into an escaped character, and digits are written as they are.
Whatever the texts are, the object can still be read.
-/

namespace PaymentBooking.Json

open Text

/-- A character that is written as it is. -/
def IsPlain (c : Char) : Prop := escapeChar c = [c]

instance (c : Char) : Decidable (IsPlain c) := inferInstanceAs (Decidable (_ = _))

theorem flatMap_escapeChar_of_isPlain {cs : List Char} (h : ∀ c ∈ cs, IsPlain c) :
    cs.flatMap escapeChar = cs := by
  induction cs with
  | nil => rfl
  | cons c cs ih =>
    have hc : escapeChar c = [c] := h c List.mem_cons_self
    rw [List.flatMap_cons, hc, ih fun d hd => h d (List.mem_cons_of_mem c hd),
      List.singleton_append]

private theorem not_mem_control :
    ∀ n < 32, '$' ∉ ['\\', 'u', '0', '0', hexDigit (n / 16), hexDigit (n % 16)] := by decide

/-- A character that is not written as it is becomes a backslash and more, without a dollar sign. -/
theorem escapeChar_of_not_isPlain {c : Char} (h : ¬IsPlain c) :
    '$' ∉ escapeChar c ∧ ∃ cs, escapeChar c = '\\' :: cs := by
  rw [IsPlain] at h
  generalize hcs : escapeChar c = cs at h ⊢
  rw [escapeChar] at hcs
  repeat' split at hcs
  all_goals subst hcs
  iterate 7 exact ⟨by decide, _, rfl⟩
  · exact ⟨not_mem_control _ ‹_›, _, rfl⟩
  · exact absurd rfl h

/-! ## Replacements inside a written text -/

section Written

variable {old new : List Char}

/-- A plain text is where it was before the characters around it were escaped. -/
theorem isPrefixOf_flatMap_escapeChar (hold : ∀ c ∈ old, IsPlain c) (cs : List Char) :
    old.isPrefixOf (cs.flatMap escapeChar) = old.isPrefixOf cs := by
  induction old generalizing cs with
  | nil => simp
  | cons o os ih =>
    cases cs with
    | nil => rfl
    | cons c cs =>
      have ho : IsPlain o := hold o List.mem_cons_self
      by_cases hc : IsPlain c
      · rw [List.flatMap_cons, hc, List.singleton_append, List.isPrefixOf, List.isPrefixOf,
          ih fun d hd => hold d (List.mem_cons_of_mem o hd)]
      · obtain ⟨-, ds, hds⟩ := escapeChar_of_not_isPlain hc
        have hslash : (o == '\\') = false := beq_eq_false_iff_ne.2 fun h => by
          subst h
          exact absurd ho (by decide)
        have hne : (o == c) = false := beq_eq_false_iff_ne.2 fun h => hc (h ▸ ho)
        simp [hds, List.isPrefixOf, hslash, hne]

private theorem replaceFrom_flatMap_of_skip {os : List Char} (hold : ∀ c ∈ '$' :: os, IsPlain c)
    (hnew : ∀ c ∈ new, IsPlain c) (cs : List Char) (skip : Nat)
    (hskip : ∀ c ∈ cs.take skip, IsPlain c) :
    replaceFrom ('$' :: os) new skip (cs.flatMap escapeChar) =
      (replaceFrom ('$' :: os) new skip cs).flatMap escapeChar := by
  induction cs generalizing skip with
  | nil => rfl
  | cons c cs ih =>
    cases skip with
    | succ k =>
      have hc : escapeChar c = [c] := hskip c List.mem_cons_self
      rw [List.flatMap_cons, hc, List.singleton_append, replaceFrom, replaceFrom]
      exact ih k fun d hd => hskip d (List.mem_cons_of_mem c hd)
    | zero =>
      by_cases hc : IsPlain c
      · have hpre := isPrefixOf_flatMap_escapeChar hold (c :: cs)
        rw [List.flatMap_cons, hc, List.singleton_append] at hpre ⊢
        rw [replaceFrom, replaceFrom, hpre]
        split
        · rename_i hoccurs
          -- The rest of the occurrence is as plain as all of it.
          have htake : cs.take os.length = os := by
            obtain ⟨t, ht⟩ := List.isPrefixOf_iff_prefix.1 hoccurs
            rw [List.cons_append, List.cons.injEq] at ht
            rw [← ht.2, List.take_left]
          have hrest := ih os.length fun d hd => hold d (List.mem_cons_of_mem _ (htake ▸ hd))
          rw [List.length_cons, Nat.add_sub_cancel, hrest, List.flatMap_append,
            flatMap_escapeChar_of_isPlain hnew]
        · rw [ih 0 (by simp), List.flatMap_cons, hc, List.singleton_append]
      · have hpre : ('$' :: os).isPrefixOf (c :: cs) = false := by
          have hne : '$' ≠ c := by
            rintro rfl
            exact hc (hold '$' List.mem_cons_self)
          simp [List.isPrefixOf, hne]
        rw [List.flatMap_cons, replaceFrom_append_of_not_mem (escapeChar_of_not_isPlain hc).1,
          ih 0 (by simp), replaceFrom, hpre, if_neg Bool.false_ne_true, List.flatMap_cons]

end Written

theorem isPlain_of_isDigit {c : Char} (h : c.isDigit) : IsPlain c := by
  have hne : ∀ d : Char, d.isDigit = false → c ≠ d := fun d => ne_of_isDigit h
  have hcontrol : ¬c.toNat < 32 := by
    have hrange := toNat_of_isDigit h
    omega
  rw [IsPlain, escapeChar]
  iterate 7 rw [if_neg (hne _ rfl)]
  rw [if_neg hcontrol]

theorem isPlain_of_mem_toString (n : Nat) : ∀ c ∈ (toString n).toList, IsPlain c := by
  intro c hc
  rw [Nat.toString_eq_repr, Nat.repr, String.toList_ofList] at hc
  exact isPlain_of_isDigit (isDigit_of_mem_toDigits hc)

theorem isPlain_of_mem_placeholder : ∀ c ∈ resourcePlaceholder.toList, IsPlain c := by
  have hall : resourcePlaceholder.toList.all fun c => decide (IsPlain c) := by decide
  exact fun c hc => of_decide_eq_true (List.all_eq_true.1 hall c hc)

/-! ## Written objects -/

/-- A text with a number in place of every placeholder. -/
def fill (n : Nat) (s : String) : String := replaceAll resourcePlaceholder (toString n) s

/-- A number shows in every text that has a placeholder. -/
theorem fill_eq_self_iff (n : Nat) (s : String) :
    fill n s = s ↔ occursIn resourcePlaceholder.toList s.toList = false := by
  have hnumber : toString n = toString (n : Int) := rfl
  have hdollar : '$' ∉ (toString n).toList := by
    rw [hnumber]
    exact not_mem_toString _ (by decide) (by decide)
  rw [fill, replaceAll, ← String.toList_inj, String.toList_ofList]
  exact replaceFrom_eq_self_iff hdollar

section Objects

variable (n : Nat)

private def fillChars (cs : List Char) : List Char :=
  replaceFrom resourcePlaceholder.toList (toString n).toList 0 cs

private theorem fillChars_append_cons {x : Char} (hx : x ∉ resourcePlaceholder.toList)
    (as bs : List Char) : fillChars n (as ++ x :: bs) = fillChars n as ++ x :: fillChars n bs :=
  replaceFrom_append_cons (by decide) hx as bs

private theorem fillChars_cons {x : Char} (hx : x ∉ resourcePlaceholder.toList)
    (cs : List Char) : fillChars n (x :: cs) = x :: fillChars n cs :=
  fillChars_append_cons n hx [] cs

private theorem fillChars_writeText (s : String) :
    fillChars n (writeText s) = writeText (fill n s) := by
  have hchars : fillChars n (s.toList.flatMap escapeChar) =
      (fillChars n s.toList).flatMap escapeChar :=
    replaceFrom_flatMap_of_skip isPlain_of_mem_placeholder (isPlain_of_mem_toString n) s.toList 0
      (by simp)
  rw [writeText, writeText, List.cons_append, fillChars_cons n (by decide),
    fillChars_append_cons n (by decide), hchars, fill, replaceAll, String.toList_ofList]
  rfl

private theorem fillChars_writeMember (name value : String) :
    fillChars n (writeMember name (writeText value)) =
      writeMember (fill n name) (writeText (fill n value)) := by
  rw [writeMember, fillChars_append_cons n (by decide), fillChars_writeText, fillChars_writeText]
  rfl

private theorem fillChars_separated (items : List (List Char)) :
    fillChars n (separated items) = separated (items.map (fillChars n)) := by
  induction items with
  | nil => rfl
  | cons item items ih =>
    cases items with
    | nil => rfl
    | cons next items =>
      have hseparated : ∀ as bs : List Char, ∀ rest,
          separated (as :: bs :: rest) = as ++ ',' :: separated (bs :: rest) := fun _ _ _ => rfl
      rw [hseparated, fillChars_append_cons n (by decide), ih]
      rfl

end Objects

/-- Numbers that are put into a written object of texts are put into its texts. -/
theorem replaceAll_print_object (n : Nat) (members : List (String × String)) :
    replaceAll resourcePlaceholder (toString n)
        (print (.object (members.map fun m => (m.1, .text m.2)))) =
      print (.object (members.map fun m => (fill n m.1, .text (fill n m.2)))) := by
  have hmembers : ((writeMembers (members.map fun m => (m.1, .text m.2))).map (fillChars n)) =
      writeMembers (members.map fun m => (fill n m.1, .text (fill n m.2))) := by
    simp [writeMembers_eq_map, write, fillChars_writeMember]
  have hchars : fillChars n (write (.object (members.map fun m => (m.1, .text m.2)))) =
      write (.object (members.map fun m => (fill n m.1, .text (fill n m.2)))) := by
    rw [write, List.cons_append, fillChars_cons n (by decide), fillChars_append_cons n (by decide),
      fillChars_separated, hmembers]
    rfl
  rw [replaceAll, print, print, String.toList_ofList, ← hchars, fillChars]

/-- The object of texts with a number in place of every placeholder, as it is read. -/
def filled (n : Nat) (members : List (String × String)) : Json :=
  .ofMembers (members.map fun m => (fill n m.1, .text (fill n m.2)))

/-- Whatever numbers are put into it, a written object of texts is read as an object of texts. -/
theorem parse?_replaceAll_print_object (n : Nat) (members : List (String × String)) :
    parse? (replaceAll resourcePlaceholder (toString n)
        (print (.object (members.map fun m => (m.1, .text m.2))))) =
      some (filled n members) := by
  rw [replaceAll_print_object]
  apply parse?_print_object
  intro m hm
  obtain ⟨c, -, rfl⟩ := List.mem_map.1 hm
  exact isReadable_text _

end PaymentBooking.Json
