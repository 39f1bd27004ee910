import PaymentBooking.LedgerSettings
import PaymentBooking.Proofs.Outcome
import PaymentBooking.Proofs.Text.Runs

/-! # What a date pattern writes

A text is a pattern exactly if it has no apostrophe and its runs of a letter are the fields for the
year, the month and the day. What the pattern writes for a date is then its text with the fields
filled in, and the format of conversion specifications that is made of it writes the same: there a
specification begins at a percent sign alone, and every percent sign of the text is doubled.
-/

namespace PaymentBooking

namespace Calendar

open Text
open List (replicate)

/-- What a format of conversion specifications writes for a date: `%Y` is the year, `%m` the month,
`%d` the day, `%%` a percent sign, and a character that is in no specification stands for itself.
Other specifications have no value. -/
def formatted? (d : Date) : List Char → Option (List Char)
  | [] => some []
  | '%' :: 'Y' :: cs => (formatted? d cs).map (d.yearText ++ ·)
  | '%' :: 'm' :: cs => (formatted? d cs).map (d.monthText ++ ·)
  | '%' :: 'd' :: cs => (formatted? d cs).map (d.dayText ++ ·)
  | '%' :: '%' :: cs => (formatted? d cs).map ('%' :: ·)
  | '%' :: _ => none
  | c :: cs => (formatted? d cs).map (c :: ·)

def twoDigits (n : Nat) : List Char := [Nat.digitChar (n / 10), Nat.digitChar (n % 10)]

def filled (d : Date) : List Char → List Char
  | [] => []
  | 'y' :: 'y' :: 'y' :: 'y' :: cs => d.yearText ++ filled d cs
  | 'M' :: 'M' :: cs => twoDigits d.month ++ filled d cs
  | 'd' :: 'd' :: cs => twoDigits d.day ++ filled d cs
  | c :: cs => c :: filled d cs

def fields : List (List Char) := [['y', 'y', 'y', 'y'], ['M', 'M'], ['d', 'd']]

/-- A text without apostrophes, all of whose runs of a letter are fields. -/
structure Translatable (cs : List Char) : Prop where
  unquoted : '\'' ∉ cs
  fields : ∀ c n, c.isAlpha → IsRun cs c n → replicate n c ∈ fields

variable {d : Date} {c : Char} {n : Nat} {cs rest : List Char}

namespace Pattern

variable {p : Pattern}

/-! ## Formats -/

theorem formatted?_cons (hc : c ≠ '%') (cs : List Char) :
    formatted? d (c :: cs) = (formatted? d cs).map (c :: ·) := by
  rw [formatted?]
  all_goals simp_all

/-- The specification of a part is read as that part, whatever stands behind it. -/
theorem formatted?_partSpecification (part : PatternPart) (cs : List Char) :
    formatted? d (partSpecification part ++ cs) = (formatted? d cs).map (partText d part ++ ·) := by
  cases part with
  | year => rfl
  | month => rfl
  | day => rfl
  | literal c =>
    by_cases hc : c = '%'
    · rw [partSpecification, if_pos hc, hc]
      rfl
    · rw [partSpecification, if_neg hc]
      exact formatted?_cons hc cs

theorem formatted?_specification (p : Pattern) (d : Date) :
    formatted? d p.specification.toList = some (p.render d).toList := by
  rw [specification, render, String.toList_ofList, String.toList_ofList]
  induction p with
  | nil => rfl
  | cons part p ih =>
    rw [List.flatMap_cons, List.flatMap_cons, formatted?_partSpecification, ih, Option.map_some]

/-! ## Runs -/

def parseChars (cs : List Char) : Except PatternFault Pattern := do
  let parts ← (cs.splitBy (· == ·)).mapM ofRun
  .ok parts.flatten

theorem parseChars_replicate_append (h : rest.head? ≠ some c) :
    parseChars (replicate (n + 1) c ++ rest) = .ok p ↔
      ∃ front back, ofRun (replicate (n + 1) c) = .ok front ∧ parseChars rest = .ok back ∧
        p = front ++ back := by
  rw [parseChars, parseChars, splitBy_replicate_append h, List.mapM_cons]
  constructor
  · intro hp
    obtain ⟨parts, hparts, hp⟩ := bind_eq_ok_iff.1 hp
    obtain ⟨front, hfront, hparts⟩ := bind_eq_ok_iff.1 hparts
    obtain ⟨backs, hbacks, hparts⟩ := bind_eq_ok_iff.1 hparts
    cases hparts
    cases hp
    exact ⟨front, backs.flatten, hfront, bind_eq_ok_iff.2 ⟨backs, hbacks, rfl⟩, rfl⟩
  · rintro ⟨front, back, hfront, hback, rfl⟩
    obtain ⟨backs, hbacks, hback⟩ := bind_eq_ok_iff.1 hback
    cases hback
    refine bind_eq_ok_iff.2 ⟨front :: backs, bind_eq_ok_iff.2 ⟨front, hfront, ?_⟩, rfl⟩
    exact bind_eq_ok_iff.2 ⟨backs, hbacks, rfl⟩

theorem ofRun_letters_eq_ok {run : List Char} (hall : run.all Char.isAlpha)
    (h : ofRun run = .ok p) :
    run = ['y', 'y', 'y', 'y'] ∧ p = [.year] ∨ run = ['M', 'M'] ∧ p = [.month] ∨
      run = ['d', 'd'] ∧ p = [.day] := by
  rw [ofRun, if_pos hall] at h
  split_ifs at h with hyear hmonth hday <;> cases h
  · exact .inl ⟨hyear, rfl⟩
  · exact .inr (.inl ⟨hmonth, rfl⟩)
  · exact .inr (.inr ⟨hday, rfl⟩)

theorem ofRun_others_eq_ok_iff (hc : c.isAlpha = false) :
    ofRun (replicate (n + 1) c) = .ok p ↔
      c ≠ '\'' ∧ p = (replicate (n + 1) c).map .literal := by
  have hall : ¬(replicate (n + 1) c).all Char.isAlpha := by simp [hc]
  rw [ofRun, if_neg hall]
  by_cases hquote : c = '\''
  · simp [hquote]
  · simp [hquote, Ne.symm hquote, eq_comm]

/-- A run is a part of patterns exactly if it is no apostrophe, and a field if it is of a letter. -/
theorem exists_ofRun_iff :
    (∃ p, ofRun (replicate (n + 1) c) = .ok p) ↔
      c ≠ '\'' ∧ (c.isAlpha → replicate (n + 1) c ∈ fields) := by
  cases hc : c.isAlpha with
  | false => simp [ofRun_others_eq_ok_iff hc]
  | true =>
    have hall : (replicate (n + 1) c).all Char.isAlpha := by simp [hc]
    have hquote : c ≠ '\'' := by
      rintro rfl
      cases hc
    simp only [hquote, ne_eq, not_false_eq_true, true_and, forall_const, fields, List.mem_cons,
      List.not_mem_nil, or_false]
    constructor
    · rintro ⟨p, hp⟩
      exact (ofRun_letters_eq_ok hall hp).imp And.left (Or.imp And.left And.left)
    · rintro (hrun | hrun | hrun) <;> rw [hrun]
      exacts [⟨_, rfl⟩, ⟨_, rfl⟩, ⟨_, rfl⟩]

theorem translatable_nil : Translatable [] := ⟨nofun, fun _ _ _ h => absurd h not_isRun_nil⟩

theorem translatable_replicate_append (h : rest.head? ≠ some c) :
    Translatable (replicate (n + 1) c ++ rest) ↔
      (c ≠ '\'' ∧ (c.isAlpha → replicate (n + 1) c ∈ fields)) ∧ Translatable rest := by
  constructor
  · rintro ⟨hunquoted, hfields⟩
    rw [List.mem_append, not_or] at hunquoted
    refine ⟨⟨?_, fun hc => hfields c (n + 1) hc ?_⟩, hunquoted.2, fun d m hd hrun => ?_⟩
    · rintro rfl
      exact hunquoted.1 (List.mem_replicate.2 ⟨Nat.succ_ne_zero n, rfl⟩)
    · exact (isRun_replicate_append h).2 (.inl ⟨rfl, rfl⟩)
    · exact hfields d m hd ((isRun_replicate_append h).2 (.inr hrun))
  · rintro ⟨⟨hquote, hfield⟩, hunquoted, hfields⟩
    refine ⟨fun hmem => ?_, fun d m hd hrun => ?_⟩
    · rcases List.mem_append.1 hmem with hmem | hmem
      · exact hquote (List.eq_of_mem_replicate hmem).symm
      · exact hunquoted hmem
    · rcases (isRun_replicate_append h).1 hrun with ⟨rfl, rfl⟩ | hrun
      · exact hfield hd
      · exact hfields d m hd hrun

/-- A text is a pattern exactly if it can be translated. -/
theorem exists_parseChars_iff (cs : List Char) :
    (∃ p, parseChars cs = .ok p) ↔ Translatable cs := by
  induction cs using run_induction with
  | nil => exact iff_of_true ⟨[], rfl⟩ translatable_nil
  | run c n rest h ih =>
    rw [translatable_replicate_append h, ← exists_ofRun_iff, ← ih]
    simp only [parseChars_replicate_append h]
    constructor
    · rintro ⟨p, front, back, hfront, hback, -⟩
      exact ⟨⟨front, hfront⟩, back, hback⟩
    · rintro ⟨⟨front, hfront⟩, back, hback⟩
      exact ⟨front ++ back, front, back, hfront, hback, rfl⟩

/-! ## Fields -/

theorem padded_two {n : Nat} (h : n < 100) : Date.padded 2 n = twoDigits n := by
  have hall : ∀ n < 100, Date.padded 2 n = twoDigits n := by decide
  exact hall n h

theorem monthText_eq (d : Date) : d.monthText = twoDigits d.month := by
  have hvalid := d.valid.2.1
  exact padded_two (by omega)

theorem dayText_eq (d : Date) : d.dayText = twoDigits d.day := by
  have hdays : daysIn d.year d.month ≤ 31 := by
    rw [daysIn]
    split_ifs <;> decide
  have hvalid := d.valid.2.2
  exact padded_two (by omega)

theorem filled_cons (hc : c.isAlpha = false) (cs : List Char) :
    filled d (c :: cs) = c :: filled d cs := by
  rw [filled]
  all_goals
    rintro _ rfl
    cases hc

theorem filled_replicate_append (hc : c.isAlpha = false) (n : Nat) (rest : List Char) :
    filled d (replicate n c ++ rest) = replicate n c ++ filled d rest := by
  induction n with
  | zero => rfl
  | succ n ih => rw [List.replicate_succ, List.cons_append, filled_cons hc, ih, List.cons_append]

theorem flatMap_partText_literal (cs : List Char) :
    (cs.map PatternPart.literal).flatMap (partText d) = cs := by
  induction cs with
  | nil => rfl
  | cons c cs ih =>
    rw [List.map_cons, List.flatMap_cons, ih]
    rfl

/-- A run that is a part of patterns is filled in as that part. -/
theorem filled_of_ofRun (h : ofRun (replicate (n + 1) c) = .ok p) (rest : List Char) :
    filled d (replicate (n + 1) c ++ rest) = p.flatMap (partText d) ++ filled d rest := by
  cases hc : c.isAlpha with
  | false =>
    obtain ⟨-, rfl⟩ := (ofRun_others_eq_ok_iff hc).1 h
    rw [filled_replicate_append hc, flatMap_partText_literal]
  | true =>
    have hall : (replicate (n + 1) c).all Char.isAlpha := by simp [hc]
    rcases ofRun_letters_eq_ok hall h with ⟨hrun, rfl⟩ | ⟨hrun, rfl⟩ | ⟨hrun, rfl⟩
    · rw [hrun, List.flatMap_singleton]
      rfl
    · rw [hrun, List.flatMap_singleton, partText, monthText_eq]
      rfl
    · rw [hrun, List.flatMap_singleton, partText, dayText_eq]
      rfl

theorem flatMap_partText_of_parseChars (h : parseChars cs = .ok p) (d : Date) :
    p.flatMap (partText d) = filled d cs := by
  induction cs using run_induction generalizing p with
  | nil =>
    cases h
    rfl
  | run c n rest hrest ih =>
    obtain ⟨front, back, hfront, hback, rfl⟩ := (parseChars_replicate_append hrest).1 h
    rw [List.flatMap_append, filled_of_ofRun hfront, ih hback]

end Pattern

end Calendar

open Calendar

/-- A text that can be translated, and no other, is a pattern; for every date the format that is
made of the pattern writes, as the pattern does, the text with its fields filled in. -/
theorem LedgerSettings.datePattern_translates (settings : LedgerSettings) :
    ((∃ p, settings.datePattern = .ok p) ↔ Translatable settings.dateFormat.toList) ∧
      ∀ p, settings.datePattern = .ok p → ∀ d,
        formatted? d p.specification.toList = some (filled d settings.dateFormat.toList) ∧
          (p.render d).toList = filled d settings.dateFormat.toList := by
  have hpattern : ∀ p, settings.datePattern = .ok p ↔
      Pattern.parseChars settings.dateFormat.toList = .ok p := fun p => mapError_eq_ok_iff
  refine ⟨?_, fun p hp d => ?_⟩
  · simp only [hpattern]
    exact Pattern.exists_parseChars_iff _
  · have hrender : (p.render d).toList = filled d settings.dateFormat.toList := by
      rw [Pattern.render, String.toList_ofList]
      exact Pattern.flatMap_partText_of_parseChars ((hpattern p).1 hp) d
    exact ⟨by rw [Pattern.formatted?_specification, hrender], hrender⟩

/-- Fields next to percent signs and to each other, and signs that stand twice. -/
theorem LedgerSettings.datePattern_translates_percent :
    ∃ p, { LedgerSettings.standard with dateFormat := "%dd%%yyyyMM€.." }.datePattern = .ok p ∧
      formatted? ⟨-44, 3, 15, by decide⟩ p.specification.toList =
        some "%15%%-004403€..".toList := by
  have htranslates := LedgerSettings.datePattern_translates
    { LedgerSettings.standard with dateFormat := "%dd%%yyyyMM€.." }
  have hpattern : ({ LedgerSettings.standard with
      dateFormat := "%dd%%yyyyMM€.." }.datePattern).toOption.any fun _ => true := by
    decide +kernel
  obtain ⟨p, hp, -⟩ := exists_of_any hpattern
  refine ⟨p, hp, ?_⟩
  rw [(htranslates.2 p hp _).1]
  decide +kernel

end PaymentBooking
