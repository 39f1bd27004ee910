import PaymentBooking.Proofs.Job.Lines

/-! # Numbers of lines

Files with a line feed between them are read one after the other, and the lines of the later one go
on with the numbers of the earlier one. For every line is read by itself: what it holds depends on
its bytes alone, and its number is its place among all lines, those that are passed over or cannot
be read among them.
-/

namespace PaymentBooking.JobLine

/-- A line of white space and nothing else. -/
def IsBlankLine (line : List UInt8) : Prop :=
  ∃ text : String, text.toByteArray.data.toList = line ∧ ∀ c ∈ text.toList, Text.isBlank c

/-- What is read of a line: an error if it is not UTF-8, and else whatever its text is read as,
unless it is blank. -/
inductive Holds (line : List UInt8) : Except Error Job → Prop
  | undecodable (h : ∀ text : String, text.toByteArray.data.toList ≠ line) :
      Holds line (.error (.io "stream did not contain valid UTF-8"))
  | text {text : String} (htext : text.toByteArray.data.toList = line)
      (hblank : ∃ c ∈ text.toList, ¬Text.isBlank c) : Holds line (Job.read text)

/-- The line with a number raised by `k`. -/
def raise (k : Nat) (l : JobLine) : JobLine := { l with number := l.number + k }

variable {bytes line : List UInt8} {text : String} {job : Except Error Job} {n : Nat}

/-! ## One line -/

theorem read?_of_decode (h : decode line = .ok text) :
    read? line = if Text.isBlankText text then none else some (Job.read text) := by
  rw [read?, h]

theorem read?_eq_none_iff : read? line = none ↔ IsBlankLine line := by
  simp only [IsBlankLine, ← decode_eq_ok_iff]
  rcases decode_cases line with ⟨text, hline⟩ | hline
  · simp [read?_of_decode hline, hline, Text.isBlankText]
  · simp [read?, hline]

theorem read?_eq_some_iff : read? line = some job ↔ Holds line job := by
  constructor
  · intro h
    rcases decode_cases line with ⟨text, hline⟩ | hline
    · rw [read?_of_decode hline] at h
      split at h
      · cases h
      · rename_i hblank
        cases h
        exact .text (decode_eq_ok_iff.1 hline)
          (by simpa [Text.isBlankText] using hblank)
    · rw [read?, hline] at h
      cases h
      refine .undecodable fun text htext => ?_
      rw [decode_eq_ok_iff.2 htext] at hline
      cases hline
  · rintro (hnone | ⟨htext, hblank⟩)
    · rcases decode_cases line with ⟨text, hline⟩ | hline
      · exact absurd (decode_eq_ok_iff.1 hline) (hnone text)
      · rw [read?, hline]
    · rw [read?_of_decode (decode_eq_ok_iff.2 htext), if_neg]
      simpa [Text.isBlankText] using hblank

/-! ## Numbers -/

theorem mem_readNumbered {lines : List (List UInt8 × Nat)} :
    ⟨n, job⟩ ∈ readNumbered lines ↔ ∃ line, (line, n) ∈ lines ∧ read? line = some job := by
  simp only [readNumbered, List.mem_filterMap, Option.map_eq_some_iff]
  constructor
  · rintro ⟨⟨line, _⟩, hmem, _, hread, ⟨⟩⟩
    exact ⟨line, hmem, hread⟩
  · rintro ⟨line, hmem, hread⟩
    exact ⟨(line, n), hmem, job, hread, rfl⟩

theorem mem_zipIdx_one {lines : List (List UInt8)} :
    (line, n) ∈ lines.zipIdx 1 ↔ ∃ i, n = i + 1 ∧ lines[i]? = some line := by
  rw [List.mk_mem_zipIdx_iff_le_and_getElem?_sub]
  constructor
  · rintro ⟨hle, hline⟩
    exact ⟨n - 1, by omega, hline⟩
  · rintro ⟨i, rfl, hline⟩
    exact ⟨by omega, hline⟩

theorem mem_readAll : ⟨n, job⟩ ∈ readAll bytes ↔
    ∃ i line, n = i + 1 ∧ (bytes.splitOn 10)[i]? = some line ∧ read? line = some job := by
  simp only [readAll_eq, mem_readNumbered, mem_zipIdx_one]
  constructor
  · rintro ⟨line, ⟨i, hn, hline⟩, hread⟩
    exact ⟨i, line, hn, hline, hread⟩
  · rintro ⟨i, line, hn, hline, hread⟩
    exact ⟨line, ⟨i, hn, hline⟩, hread⟩

/-- No number of a line that is passed over is given to another. -/
theorem number_ne_iff {i : Nat} (h : (bytes.splitOn 10)[i]? = some line) :
    (∀ l ∈ readAll bytes, l.number ≠ i + 1) ↔ read? line = none := by
  constructor
  · intro hnone
    by_contra hsome
    obtain ⟨job, hjob⟩ := Option.ne_none_iff_exists'.1 hsome
    exact hnone ⟨i + 1, job⟩ (mem_readAll.2 ⟨i, line, rfl, h, hjob⟩) rfl
  · rintro hnone ⟨n, job⟩ hmem rfl
    obtain ⟨j, line', hj, hline', hjob⟩ := mem_readAll.1 hmem
    obtain rfl : i = j := by omega
    obtain rfl := Option.some.inj (h.symm.trans hline')
    rw [hnone] at hjob
    cases hjob

theorem pairwise_number (bytes : List UInt8) :
    (readAll bytes).Pairwise fun l m => l.number < m.number := by
  have hplaces : ((bytes.splitOn 10).zipIdx 1).Pairwise fun l m => l.2 < m.2 := by
    rw [← List.pairwise_map, List.zipIdx_map_snd]
    exact List.pairwise_lt_range'
  rw [readAll_eq, readNumbered]
  refine hplaces.filterMap _ fun l m hlt l' hl m' hm => ?_
  simp only [Option.map_eq_some_iff] at hl hm
  obtain ⟨_, -, rfl⟩ := hl
  obtain ⟨_, -, rfl⟩ := hm
  exact hlt

/-! ## Files joined by a line feed -/

theorem length_splitOn (bytes : List UInt8) :
    (bytes.splitOn 10).length = bytes.count 10 + 1 := by
  induction bytes with
  | nil => rfl
  | cons b bytes ih =>
    rw [List.splitOn_cons_eq_if_modifyHead, List.count_cons]
    split <;> simp [ih]

theorem readNumbered_zipIdx_add (lines : List (List UInt8)) (n k : Nat) :
    readNumbered (lines.zipIdx (n + k)) = (readNumbered (lines.zipIdx n)).map (raise k) := by
  induction lines generalizing n with
  | nil => rfl
  | cons line lines ih =>
    have hnext : n + k + 1 = n + 1 + k := by omega
    rw [List.zipIdx_cons, List.zipIdx_cons, hnext]
    simp only [readNumbered, List.filterMap_cons] at ih ⊢
    cases read? line with
    | none => simp [ih]
    | some job => simp [ih, raise]

theorem readAll_append (before after : List UInt8) :
    readAll (before ++ 10 :: after) =
      readAll before ++ (readAll after).map (raise (before.count 10 + 1)) := by
  rw [readAll_eq, List.splitOn_append_cons_self, List.zipIdx_append, readNumbered_append,
    length_splitOn, readNumbered_zipIdx_add, ← readAll_eq, ← readAll_eq]

/-- What is read of two files with a line feed between them is what is read of the first, and then
what is read of the second with every number raised by one more than the first has line feeds. In
every file the lines are read that are not made of white space only, each by itself, in their order
and under its place among all lines. -/
theorem readAll_joins (before after bytes : List UInt8) :
    readAll (before ++ 10 :: after) =
        readAll before ++ (readAll after).map (raise (before.count 10 + 1)) ∧
      (∀ n job, ⟨n, job⟩ ∈ readAll bytes ↔
        ∃ i line, n = i + 1 ∧ (bytes.splitOn 10)[i]? = some line ∧ Holds line job) ∧
      (readAll bytes).Pairwise (fun l m => l.number < m.number) ∧
      ∀ i line, (bytes.splitOn 10)[i]? = some line →
        ((∀ l ∈ readAll bytes, l.number ≠ i + 1) ↔ IsBlankLine line) := by
  refine ⟨readAll_append before after, fun n job => ?_, pairwise_number bytes,
    fun i line hline => ?_⟩
  · simp only [← read?_eq_some_iff]
    exact mem_readAll
  · rw [number_ne_iff hline, read?_eq_none_iff]

end PaymentBooking.JobLine
