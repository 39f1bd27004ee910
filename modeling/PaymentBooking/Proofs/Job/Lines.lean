import Mathlib.Logic.Relation
import PaymentBooking.Cli.Run
import PaymentBooking.Proofs.Json.LineEnd
import PaymentBooking.Proofs.Outcome
import PaymentBooking.Proofs.Text.Bytes
import PaymentBooking.Proofs.Text.Numeral

/-! # Which lines of a file are jobs

A line is a job by what it is itself: the texts of UTF-8 that are read as one. That a carriage
return in front of its end is dropped, and that a blank line is passed over before it is read,
changes nothing about this. So the jobs of two files with a line feed between them are those of the
one and then those of the other, and a line that is no job may be put in or taken out anywhere.
-/

namespace PaymentBooking

namespace JobLine

/-- The job that a line is, if it is one. -/
def jobIn? (line : List UInt8) : Option Job :=
  (decode line).toOption.bind fun text => (Job.read text).toOption

/-- The jobs among the lines of a file, which are what is between its line feeds. -/
def jobsIn (bytes : List UInt8) : List Job := (bytes.splitOn 10).filterMap jobIn?

/-! ## Bytes of a text -/

theorem decode_eq_ok_iff {line : List UInt8} {text : String} :
    decode line = .ok text ↔ text.toByteArray.data.toList = line := by
  rw [decode, ← Text.fromUTF8?_eq_some_iff]
  cases String.fromUTF8? ⟨line.toArray⟩ <;> simp

theorem utf8EncodeChar_of_return {c : Char} {front : List UInt8}
    (h : String.utf8EncodeChar c = front ++ [13]) : c = '\r' ∧ front = [] := by
  rcases Text.utf8EncodeChar_cases c with ⟨hc, hbytes⟩ | ⟨-, _, _, hbytes, hlarge⟩
  · rw [hbytes, ← List.nil_append [_]] at h
    obtain ⟨rfl, hbyte⟩ := List.append_inj' h rfl
    have hnat := congrArg UInt8.toNat (List.singleton_inj.1 hbyte)
    rw [UInt8.toNat_ofNat', Nat.mod_eq_of_lt (by omega)] at hnat
    exact ⟨Char.ext (UInt32.toNat_inj.1 hnat), rfl⟩
  · have hmem : (13 : UInt8) ∈ String.utf8EncodeChar c := h ▸ List.mem_concat_self
    exact absurd (hlarge 13 (hbytes ▸ hmem)) (by decide)

theorem decode_return {line : List UInt8} {text : String} :
    decode (line ++ [13]) = .ok text ↔
      ∃ front, decode line = .ok front ∧ text.toList = front.toList ++ ['\r'] := by
  simp only [decode_eq_ok_iff, Text.toList_toByteArray]
  constructor
  · intro h
    rcases List.eq_nil_or_concat' text.toList with hnil | ⟨cs, c, hcs⟩
    · simp [hnil] at h
    rcases List.eq_nil_or_concat' (String.utf8EncodeChar c) with hnil | ⟨front, b, hfront⟩
    · exact absurd hnil String.utf8EncodeChar_ne_nil
    rw [hcs, List.flatMap_append, List.flatMap_singleton, hfront, ← List.append_assoc] at h
    obtain ⟨hline, hb⟩ := List.append_inj' h rfl
    cases hb
    obtain ⟨rfl, rfl⟩ := utf8EncodeChar_of_return hfront
    rw [List.append_nil] at hline
    exact ⟨String.ofList cs, by rw [String.toList_ofList, hline], by rw [String.toList_ofList, hcs]⟩
  · rintro ⟨front, rfl, htext⟩
    rw [htext, List.flatMap_append]
    rfl

def jobOfChars? (cs : List Char) : Option Job :=
  match Json.readValue? (2 * cs.length + 2) cs with
  | some (raw, rest) => if (Json.skipBlank rest).isEmpty then Job.ofRaw? raw else none
  | none => none

/-- A line is the job that the characters are read as whose bytes it has. -/
theorem jobIn?_flatMap (cs : List Char) :
    jobIn? (cs.flatMap String.utf8EncodeChar) = jobOfChars? cs := by
  have hdecode : decode (cs.flatMap String.utf8EncodeChar) = .ok (String.ofList cs) := by
    rw [decode_eq_ok_iff, Text.toList_toByteArray, String.toList_ofList]
  have hraw : (Json.readRaw? (String.ofList cs)).bind Job.ofRaw? = jobOfChars? cs := by
    rw [Json.readRaw?, String.toList_ofList, jobOfChars?]
    rcases Json.readValue? (2 * cs.length + 2) cs with _ | ⟨raw, rest⟩
    · rfl
    · dsimp only
      split <;> rfl
  rw [jobIn?, hdecode, ← hraw]
  change (Job.read (String.ofList cs)).toOption = _
  rw [Job.read]
  cases (Json.readRaw? (String.ofList cs)).bind Job.ofRaw? <;> rfl

theorem decode_cases (line : List UInt8) :
    (∃ text, decode line = .ok text) ∨
      decode line = .error (.io "stream did not contain valid UTF-8") := by
  rw [decode]
  cases String.fromUTF8? ⟨line.toArray⟩ with
  | some text => exact .inl ⟨text, rfl⟩
  | none => exact .inr rfl

/-- A line holds the same with a carriage return behind it. -/
theorem read?_return (line : List UInt8) : read? (line ++ [13]) = read? line := by
  rcases decode_cases line with ⟨text, hline⟩ | hline
  · have hreturn : decode (line ++ [13]) = .ok (String.ofList (text.toList ++ ['\r'])) :=
      decode_return.2 ⟨text, hline, String.toList_ofList⟩
    have hblank : Text.isBlankText (String.ofList (text.toList ++ ['\r'])) =
        Text.isBlankText text := by simp [Text.isBlankText, Text.isBlank]
    have hread : Job.read (String.ofList (text.toList ++ ['\r'])) = Job.read text := by
      rw [Job.read, Job.read, Json.readRaw?_return String.toList_ofList]
    rw [read?, read?, hreturn, hline]
    simp only [hblank, hread]
  · rcases decode_cases (line ++ [13]) with ⟨text, hreturn⟩ | hreturn
    · obtain ⟨front, hfront, -⟩ := decode_return.1 hreturn
      rw [hline] at hfront
      cases hfront
    · rw [read?, read?, hreturn, hline]

theorem read?_dropReturn (line : List UInt8) : read? (dropReturn line) = read? line := by
  rw [dropReturn]
  split
  · rename_i hlast
    obtain ⟨front, rfl⟩ := List.getLast?_eq_some_iff.1 hlast
    rw [List.dropLast_concat, read?_return]
  · rfl

/-! ## Lines of a file -/

theorem readNumbered_append (ls ms : List (List UInt8 × Nat)) :
    readNumbered (ls ++ ms) = readNumbered ls ++ readNumbered ms := List.filterMap_append

theorem readNumbered_map_dropReturn (lines : List (List UInt8)) (n : Nat) :
    readNumbered ((lines.map dropReturn).zipIdx n) = readNumbered (lines.zipIdx n) := by
  rw [List.zipIdx_map, readNumbered, List.filterMap_map]
  apply List.filterMap_congr
  intro line _
  simp [read?_dropReturn]

/-- The lines of a file may be taken as what is between its line feeds: a carriage return at the end
of a line counts for nothing, and no more does what is behind the last feed if that is empty. -/
theorem readAll_eq (bytes : List UInt8) :
    readAll bytes = readNumbered ((bytes.splitOn 10).zipIdx 1) := by
  have hempty : read? [] = none := by decide +kernel
  have hrest : ∀ (rest : List UInt8) (n : Nat),
      readNumbered ((if rest.isEmpty then [] else [rest]).zipIdx n) =
        readNumbered ([rest].zipIdx n) := by
    rintro (_ | ⟨b, rest⟩) n
    · simp [readNumbered, hempty]
    · rfl
  obtain ⟨front, rest, hpieces⟩ : ∃ front rest, bytes.splitOn 10 = front ++ [rest] :=
    (List.eq_nil_or_concat' _).resolve_left (List.splitOn_ne_nil 10 bytes)
  rw [readAll, split, hpieces, List.dropLast_concat, List.getLast?_concat, Option.getD_some,
    List.zipIdx_append, readNumbered_append, readNumbered_map_dropReturn, hrest, List.length_map,
    ← readNumbered_append, ← List.zipIdx_append]

/-! ## Blank lines -/

theorem readValue?_of_blank {cs : List Char} (h : cs.all Text.isBlank) (fuel : Nat) :
    Json.readValue? fuel cs = none := by
  cases fuel with
  | zero => rfl
  | succ fuel =>
    rw [Json.readValue?_succ, Json.valueStep?]
    split
    · rfl
    · rename_i c rest hskip
      have hmem : c ∈ cs := (List.dropWhile_suffix _).subset (hskip ▸ List.mem_cons_self)
      have hblank : Text.isBlank c := List.all_eq_true.1 h c hmem
      have hne : ∀ d, Text.isBlank d = false → c ≠ d := by
        rintro d hd rfl
        rw [hblank] at hd
        cases hd
      have hdigit : c.isDigit = false := by
        rw [Bool.eq_false_iff]
        intro hdigit
        have hrange := Text.toNat_of_isDigit hdigit
        simp only [Text.isBlank, Bool.or_eq_true, Bool.and_eq_true, decide_eq_true_eq,
          beq_iff_eq] at hblank
        omega
      simp [Json.valueFrom?, hne 'n' rfl, hne 't' rfl, hne 'f' rfl, hne '"' rfl, hne '[' rfl,
        hne '\x7b' rfl, Json.readNumeral?_cons_of_ne hdigit (hne '-' rfl)]

theorem read_of_isBlankText {text : String} (h : Text.isBlankText text) :
    (Job.read text).toOption = none := by
  have hraw : Json.readRaw? text = none := by
    rw [Option.eq_none_iff_forall_ne_some]
    intro raw hread
    obtain ⟨fuel, rest, hvalue, -⟩ := Json.readRaw?_eq_some_iff.1 hread
    rw [readValue?_of_blank h] at hvalue
    cases hvalue
  rw [Job.read, hraw]
  rfl

/-- A blank line is passed over and a bad one reported, and neither is a job. -/
theorem bind_read?_toOption (line : List UInt8) :
    ((read? line).bind fun job => job.toOption) = jobIn? line := by
  rw [read?, jobIn?]
  cases hline : decode line with
  | error e => rfl
  | ok text =>
    simp only [Except.toOption, Option.bind_some]
    split
    · rename_i hblank
      exact (read_of_isBlankText hblank).symm
    · rfl

/-! ## Jobs of a file -/

theorem jobsIn_append (before after : List UInt8) :
    jobsIn (before ++ 10 :: after) = jobsIn before ++ jobsIn after := by
  rw [jobsIn, List.splitOn_append_cons_self, List.filterMap_append]
  rfl

theorem jobsIn_of_not_mem {line : List UInt8} (h : 10 ∉ line) :
    jobsIn line = (jobIn? line).toList := by
  rw [jobsIn, List.splitOn_eq_singleton h]
  cases hjob : jobIn? line <;> simp [hjob]

theorem filterMap_jobOf?_readAll (bytes : List UInt8) :
    (readAll bytes).filterMap Cli.jobOf? = jobsIn bytes := by
  have hjob : ∀ line : List UInt8 × Nat,
      (((read? line.1).map fun job => (⟨line.2, job⟩ : JobLine)).bind Cli.jobOf?) =
        jobIn? line.1 := by
    intro line
    rw [← bind_read?_toOption]
    rcases read? line.1 with _ | (e | job) <;> rfl
  rw [readAll_eq, readNumbered, List.filterMap_filterMap]
  simp only [hjob]
  rw [jobsIn]
  conv_rhs => rw [← List.zipIdx_map_fst 1 (bytes.splitOn 10), List.filterMap_map]
  rfl

/-- One more line that is no job, in front of another line or behind the last. -/
inductive Inserted : List UInt8 → List UInt8 → Prop
  | first {after line : List UInt8} (hline : 10 ∉ line) (hnone : jobIn? line = none) :
      Inserted after (line ++ 10 :: after)
  | between {before after line : List UInt8} (hline : 10 ∉ line) (hnone : jobIn? line = none) :
      Inserted (before ++ 10 :: after) (before ++ 10 :: line ++ 10 :: after)
  | last {before line : List UInt8} (hline : 10 ∉ line) (hnone : jobIn? line = none) :
      Inserted before (before ++ 10 :: line)

theorem Inserted.jobsIn_eq {bytes bytes' : List UInt8} (h : Inserted bytes bytes') :
    jobsIn bytes' = jobsIn bytes := by
  have hline : ∀ {line}, 10 ∉ line → jobIn? line = none → jobsIn line = [] := by
    intro line hfeed hnone
    rw [jobsIn_of_not_mem hfeed, hnone]
    rfl
  cases h with
  | first hfeed hnone => rw [jobsIn_append, hline hfeed hnone, List.nil_append]
  | between hfeed hnone =>
    rw [jobsIn_append, jobsIn_append, jobsIn_append, hline hfeed hnone, List.append_nil]
  | last hfeed hnone => rw [jobsIn_append, hline hfeed hnone, List.append_nil]

theorem jobsIn_eq_of_eqvGen {bytes bytes' : List UInt8}
    (h : Relation.EqvGen Inserted bytes bytes') : jobsIn bytes' = jobsIn bytes := by
  induction h with
  | rel _ _ h => exact h.jobsIn_eq
  | refl => rfl
  | symm _ _ _ ih => exact ih.symm
  | trans _ _ _ _ _ ih₁ ih₂ => exact ih₂.trans ih₁

end JobLine

end PaymentBooking
