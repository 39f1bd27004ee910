import PaymentBooking.Proofs.Json.Fuel
import PaymentBooking.Proofs.Text.Replace

/-! # Carriage returns behind a text

A line may end with a carriage return that belongs to its end. Left at the line, it is one more
blank behind its value: no reader takes it, and none stops in front of it that would not have
stopped at the end.
-/

namespace PaymentBooking.Json

/-- A reader that does not take a carriage return at the very end. -/
def KeepsReturn {α : Type} (reader : List Char → Option (α × List Char)) : Prop :=
  ∀ cs, reader (cs ++ ['\r']) = (reader cs).map fun p => (p.1, p.2 ++ ['\r'])

namespace KeepsReturn

variable {α β : Type}

theorem some (a : α) : KeepsReturn fun cs => some (a, cs) := fun _ => rfl

theorem none : KeepsReturn fun _ => (none : Option (α × List Char)) := fun _ => rfl

theorem map {reader : List Char → Option (α × List Char)} (hreader : KeepsReturn reader)
    (f : α → β) : KeepsReturn fun cs => (reader cs).map fun p => (f p.1, p.2) := by
  intro cs
  dsimp only
  rw [hreader cs]
  cases reader cs <;> rfl

end KeepsReturn

theorem skipBlank_return (cs : List Char) :
    skipBlank (cs ++ ['\r']) = if (skipBlank cs).isEmpty then [] else skipBlank cs ++ ['\r'] :=
  List.dropWhile_append

/-- Behind the blanks, a carriage return at the very end does not count for a reader that finds none
at its beginning. -/
theorem keepsReturn_skipBlank {α : Type} {onEmpty : Option (α × List Char)}
    {onCons : Char → List Char → Option (α × List Char)} (hempty : onEmpty = none)
    (hcons : ∀ c, KeepsReturn (onCons c)) :
    KeepsReturn fun cs => match skipBlank cs with
      | [] => onEmpty
      | c :: cs => onCons c cs := by
  intro cs
  dsimp only
  rw [skipBlank_return]
  cases skipBlank cs with
  | nil => simp [hempty]
  | cons c cs => exact hcons c cs

theorem keepsReturn_readUnits? : KeepsReturn readUnits? := by
  intro cs
  fun_induction readUnits? cs with
  | case1 => rfl
  | case2 cs => rfl
  | case3 a b c d cs ih =>
    simp only [List.cons_append, readUnits?, ih]
    cases codeUnit? a b c d with
    | none => rfl
    | some n => cases readUnits? cs <;> rfl
  | case4 e cs hu ih =>
    by_cases he : e = 'u'
    · -- Fewer than four digits are left, and the return is no digit.
      subst he
      rcases cs with _ | ⟨a, _ | ⟨b, _ | ⟨c, _ | ⟨d, cs⟩⟩⟩⟩
      · rfl
      · rfl
      · rfl
      · have hcode : codeUnit? a b c '\r' = none := by simp [codeUnit?, Text.hexValue?]
        simp [readUnits?, hcode, unescape?]
      · exact absurd rfl (hu a b c d cs rfl)
    · rw [List.cons_append, List.cons_append, readUnits?, ih]
      · cases unescape? e with
        | none => rfl
        | some c => cases readUnits? cs <;> rfl
      · exact fun _ _ _ _ _ h => absurd h he
  | case5 c cs hq hu he hc =>
    have hslash : c ≠ '\\' := by
      rintro rfl
      exact absurd hc (by decide)
    rw [List.cons_append, readUnits?, if_pos hc]
    · rfl
    · exact hq
    · exact fun _ _ _ _ _ h => absurd h hslash
    · exact fun _ _ h => absurd h hslash
  | case6 c cs hq hu he hc ih =>
    by_cases hslash : c = '\\'
    · cases cs with
      | nil => subst hslash; rfl
      | cons e cs => exact absurd rfl (he e cs hslash)
    · rw [List.cons_append, readUnits?, if_neg hc, ih]
      · cases readUnits? cs <;> rfl
      · exact hq
      · exact fun _ _ _ _ _ h => absurd h hslash
      · exact fun _ _ h => absurd h hslash

theorem keepsReturn_word? {w : List Char} (hw : '\r' ∉ w) (raw : Raw) :
    KeepsReturn (word? w raw) := by
  intro cs
  rw [word?, word?, Text.isPrefixOf_append_cons hw]
  split
  · rename_i hpre
    have hle := (List.isPrefixOf_iff_prefix.1 hpre).length_le
    rw [List.drop_append_of_le_length hle]
    rfl
  · rfl

/-! ## Numerals -/

theorem keepsReturn_readDigits? : KeepsReturn readDigits? := by
  intro cs
  have hdigits : readDigits (cs ++ ['\r']) = ((readDigits cs).1, (readDigits cs).2 ++ ['\r']) := by
    induction cs with
    | nil => rfl
    | cons c cs ih =>
      by_cases hc : c.isDigit
      · simp only [readDigits, Prod.mk.injEq] at ih
        simp [readDigits, hc, ih]
      · simp [readDigits, hc]
  simp only [readDigits?, hdigits]
  split <;> rfl

theorem keepsReturn_readWhole? : KeepsReturn readWhole? := by
  intro cs
  rw [readWhole?, keepsReturn_readDigits? cs, readWhole?]
  cases readDigits? cs with
  | none => rfl
  | some p =>
    dsimp only [Option.map_some, Option.bind_some]
    split <;> rfl

theorem keepsReturn_readFraction? : KeepsReturn readFraction? := by
  intro cs
  cases cs with
  | nil => rfl
  | cons c cs =>
    by_cases hpoint : c = '.'
    · subst hpoint
      exact keepsReturn_readDigits? cs
    · have hother : ∀ cs, readFraction? (c :: cs) = some ([], c :: cs) := fun cs => by
        rw [readFraction?]
        rintro cs' heq
        exact hpoint (List.cons.inj heq).1
      rw [List.cons_append, hother, hother]
      rfl

theorem keepsReturn_readExponentBody? : KeepsReturn readExponentBody? := by
  have hdigits : ∀ negative, KeepsReturn fun cs =>
      (readDigits? cs).map fun p => (Exponent.mk negative p.1, p.2) := fun negative =>
    keepsReturn_readDigits?.map (Exponent.mk negative)
  intro cs
  cases cs with
  | nil => rfl
  | cons c cs =>
    by_cases hminus : c = '-'
    · subst hminus
      exact hdigits true cs
    by_cases hplus : c = '+'
    · subst hplus
      exact hdigits false cs
    have hother : ∀ cs, readExponentBody? (c :: cs) =
        (readDigits? (c :: cs)).map fun p => (⟨false, p.1⟩, p.2) := fun cs => by
      rw [readExponentBody?]
      · rintro cs' heq
        exact hminus (List.cons.inj heq).1
      · rintro cs' heq
        exact hplus (List.cons.inj heq).1
    rw [List.cons_append, hother, hother]
    exact hdigits false (c :: cs)

theorem keepsReturn_readExponent? : KeepsReturn readExponent? := by
  intro cs
  cases cs with
  | nil => rfl
  | cons c cs =>
    by_cases hlower : c = 'e'
    · subst hlower
      exact keepsReturn_readExponentBody?.map some cs
    by_cases hupper : c = 'E'
    · subst hupper
      exact keepsReturn_readExponentBody?.map some cs
    have hother : ∀ cs, readExponent? (c :: cs) = some (none, c :: cs) := fun cs => by
      rw [readExponent?]
      · rintro cs' heq
        exact hlower (List.cons.inj heq).1
      · rintro cs' heq
        exact hupper (List.cons.inj heq).1
    rw [List.cons_append, hother, hother]
    rfl

theorem keepsReturn_readMagnitude? (negative : Bool) : KeepsReturn (readMagnitude? negative) := by
  intro cs
  simp only [readMagnitude?, Option.bind_eq_bind, keepsReturn_readWhole? cs]
  rcases readWhole? cs with _ | ⟨whole, cs⟩
  · rfl
  simp only [Option.map_some, Option.bind_some, keepsReturn_readFraction? cs]
  rcases readFraction? cs with _ | ⟨fraction, cs⟩
  · rfl
  simp only [Option.map_some, Option.bind_some, keepsReturn_readExponent? cs]
  rcases readExponent? cs with _ | ⟨exponent, cs⟩ <;> rfl

theorem keepsReturn_readNumeral? : KeepsReturn readNumeral? := by
  intro cs
  cases cs with
  | nil => rfl
  | cons c cs =>
    by_cases hminus : c = '-'
    · subst hminus
      exact keepsReturn_readMagnitude? true cs
    · have hother : ∀ cs, readNumeral? (c :: cs) = readMagnitude? false (c :: cs) := fun cs => by
        rw [readNumeral?]
        rintro cs' heq
        exact hminus (List.cons.inj heq).1
      rw [List.cons_append, hother, hother]
      exact keepsReturn_readMagnitude? false (c :: cs)

/-! ## Values -/

theorem keepsReturn_ite {α : Type} {p : Prop} [Decidable p]
    {yes no : List Char → Option (α × List Char)} (hyes : KeepsReturn yes) (hno : KeepsReturn no) :
    KeepsReturn fun cs => if p then yes cs else no cs := by
  intro cs
  dsimp only
  split
  · exact hyes cs
  · exact hno cs

def expected? {α : Type} (c : Char) (next : List Char → Option (α × List Char)) (cs : List Char) :
    Option (α × List Char) :=
  match skipBlank cs with
  | [] => none
  | d :: cs => if d = c then next cs else none

theorem keepsReturn_expected? {α : Type} {c : Char} {next : List Char → Option (α × List Char)}
    (hnext : KeepsReturn next) : KeepsReturn (expected? c next) :=
  keepsReturn_skipBlank rfl fun _ => keepsReturn_ite hnext .none

theorem readName?_eq_expected? (cs : List Char) :
    readName? cs = expected? '"' (fun cs => (readUnits? cs).bind fun p =>
      expected? ':' (fun cs => some (p.1, cs)) p.2) cs := by
  rw [readName?, expected?]
  cases skipBlank cs with
  | nil => rfl
  | cons c cs =>
    by_cases hc : c = '"'
    · subst hc
      refine congrArg (Option.bind _) (funext fun p => ?_)
      rw [expected?]
      dsimp only
      cases skipBlank p.2 with
      | nil => rfl
      | cons d cs =>
        by_cases hd : d = ':'
        · subst hd; rfl
        · simp [hd]
    · simp [hc]

theorem keepsReturn_readName? : KeepsReturn readName? := by
  intro cs
  rw [readName?_eq_expected?, readName?_eq_expected?]
  refine keepsReturn_expected? (fun cs => ?_) cs
  rw [keepsReturn_readUnits? cs]
  rcases readUnits? cs with _ | ⟨name, cs⟩
  · rfl
  · exact keepsReturn_expected? (.some name) cs

theorem keepsReturn_enclosed? {close : Char} {empty : Raw}
    {inner : List Char → Option (Raw × List Char)} (hinner : KeepsReturn inner)
    (hempty : inner [] = none) : KeepsReturn (enclosed? close empty inner) :=
  keepsReturn_skipBlank hempty fun c =>
    keepsReturn_ite (.some empty) fun cs => hinner (c :: cs)

theorem keepsReturn_continued? {α : Type} {close : Char} (single : α)
    {more : List Char → Option (α × List Char)} (hmore : KeepsReturn more) :
    KeepsReturn (continued? close single more) :=
  keepsReturn_skipBlank rfl fun _ => keepsReturn_ite hmore (keepsReturn_ite (.some single) .none)

theorem keepsReturn_valueStep? {items : ItemsReader} {members : MembersReader}
    (hitems : KeepsReturn items) (hitemsEmpty : items [] = none) (hmembers : KeepsReturn members)
    (hmembersEmpty : members [] = none) : KeepsReturn (valueStep? items members) := by
  refine keepsReturn_skipBlank rfl fun c => ?_
  refine keepsReturn_ite (keepsReturn_word? (by decide) _) ?_
  refine keepsReturn_ite (keepsReturn_word? (by decide) _) ?_
  refine keepsReturn_ite (keepsReturn_word? (by decide) _) ?_
  refine keepsReturn_ite (keepsReturn_readUnits?.map Raw.text) ?_
  refine keepsReturn_ite (keepsReturn_enclosed? (hitems.map Raw.array) (by simp [hitemsEmpty])) ?_
  refine keepsReturn_ite
    (keepsReturn_enclosed? (hmembers.map Raw.object) (by simp [hmembersEmpty])) ?_
  exact fun cs => keepsReturn_readNumeral?.map Raw.number (c :: cs)

theorem keepsReturn_read (fuel : Nat) :
    KeepsReturn (readValue? fuel) ∧ KeepsReturn (readItems? fuel) ∧
      KeepsReturn (readMembers? fuel) := by
  induction fuel with
  | zero => exact ⟨.none, .none, .none⟩
  | succ fuel ih =>
    obtain ⟨hvalue, hitems, hmembers⟩ := ih
    refine ⟨fun cs => ?_, fun cs => ?_, fun cs => ?_⟩
    · rw [readValue?_succ, readValue?_succ]
      exact keepsReturn_valueStep? hitems (settles fuel).2.1.nil hmembers (settles fuel).2.2.nil cs
    · rw [readItems?_succ, readItems?_succ, hvalue cs]
      rcases readValue? fuel cs with _ | ⟨item, cs⟩
      · rfl
      · exact keepsReturn_continued? [item] (hitems.map (item :: ·)) cs
    · rw [readMembers?_succ, readMembers?_succ, keepsReturn_readName? cs]
      rcases readName? cs with _ | ⟨name, cs⟩
      · rfl
      simp only [Option.map_some, Option.bind_some, hvalue cs]
      rcases readValue? fuel cs with _ | ⟨value, cs⟩
      · rfl
      · exact keepsReturn_continued? [(name, value)] (hmembers.map ((name, value) :: ·)) cs

/-- A carriage return behind a text changes nothing about what is read. -/
theorem readRaw?_return {s s' : String} (h : s'.toList = s.toList ++ ['\r']) :
    readRaw? s' = readRaw? s := by
  have hblank : ∀ rest, skipBlank (rest ++ ['\r']) = [] ↔ skipBlank rest = [] := by
    intro rest
    rw [skipBlank_return]
    cases skipBlank rest <;> simp
  ext raw
  rw [readRaw?_eq_some_iff, readRaw?_eq_some_iff]
  refine exists_congr fun fuel => ?_
  rw [h, (keepsReturn_read fuel).1 s.toList]
  constructor
  · rintro ⟨rest, hread, hrest⟩
    obtain ⟨p, hp, heq⟩ := Option.map_eq_some_iff.1 hread
    obtain ⟨rfl, rfl⟩ := Prod.mk.inj heq
    exact ⟨p.2, hp, (hblank p.2).1 hrest⟩
  · rintro ⟨rest, hread, hrest⟩
    exact ⟨rest ++ ['\r'], by rw [hread]; rfl, (hblank rest).2 hrest⟩

end PaymentBooking.Json
