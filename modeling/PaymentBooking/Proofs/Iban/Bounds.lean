import PaymentBooking.Proofs.Iban.Checksum
import PaymentBooking.Proofs.Text.Bytes

/-! # The check of an IBAN within its bounds

A text is checked by its bytes, is cut in two at a byte, and its remainder is carried along in words
of 32 bits. Each of these can fail: a slice can reach behind the end, a cut can fall into a
character and a product can leave the range of words. None of them does for any text: the bytes that
are checked first show that all characters which are cut have one byte, and a remainder is below 97.
-/

namespace PaymentBooking.Iban

/-! ## Operations with bounds -/

def slice? (bytes : List UInt8) (start stop : Nat) : Option (List UInt8) :=
  if start ≤ stop ∧ stop ≤ bytes.length then some ((bytes.take stop).drop start) else none

/-- The characters in front of a byte position and those behind it. The position has to be within
the text and must not be inside of a character. -/
def splitAtByte? : Nat → List Char → Option (List Char × List Char)
  | 0, cs => some ([], cs)
  | _ + 1, [] => none
  | n + 1, c :: cs =>
    if n + 1 < c.utf8Size then none
    else (splitAtByte? (n + 1 - c.utf8Size) cs).map fun (front, rest) => (c :: front, rest)

def mulAdd? (a b c : UInt32) : Option UInt32 :=
  if a.toNat * b.toNat + c.toNat < 2 ^ 32 then some (a * b + c) else none

def digitOf36? (c : Char) : Option UInt32 :=
  if c.isDigit then some (c.val - 48)
  else if c.isUpper then some (c.val - 55)
  else if c.isLower then some (c.val - 87)
  else none

/-- The remainder modulo 97 after one more character, in words. -/
def appendWord? (remainder : UInt32) (c : Char) : Option UInt32 :=
  match digitOf36? c with
  | some v => (mulAdd? remainder (if 10 ≤ v then 100 else 10) v).map (· % 97)
  | none => some remainder

def isUpperByte (b : UInt8) : Bool := 65 ≤ b && b ≤ 90

def isDigitByte (b : UInt8) : Bool := 48 ≤ b && b ≤ 57

def bytes (s : String) : List UInt8 := s.toByteArray.data.toList

/-- The check of a text by its bytes and in words; no value where one of its steps is out of
bounds. -/
def evaluate? (s : String) : Option (Except IbanFault Iban) :=
  let bs := bytes s
  if bs.length < 15 ∨ 34 < bs.length then some (.error .wrongLength)
  else do
    let country ← slice? bs 0 2
    if !country.all isUpperByte then return .error .missingCountryCode
    let check ← slice? bs 2 4
    if !check.all isDigitByte then return .error .missingCheckDigits
    let body ← slice? bs 4 bs.length
    if !body.all (fun b => isDigitByte b || isUpperByte b) then
      return .error .unexpectedCharacter
    let (front, rest) ← splitAtByte? 4 s.toList
    let remainder ← (rest ++ front).foldlM appendWord? 0
    if remainder ≠ 1 then return .error .checksumMismatch
    return .ok ⟨s⟩

variable {c : Char} {cs : List Char} {p q : UInt8 → Bool} {f g : Char → Bool} {n : Nat}

/-! ## Bytes and characters -/

theorem bytes_eq (s : String) : bytes s = s.toList.flatMap String.utf8EncodeChar :=
  Text.toList_toByteArray s

theorem length_bytes (s : String) : (bytes s).length = s.utf8ByteSize := rfl

/-- A test of bytes that tells for every character whether a test of characters holds: it is the
same on the characters of one byte, and both fail on all other bytes and characters. -/
structure Tells (p : UInt8 → Bool) (f : Char → Bool) : Prop where
  same : ∀ c : Char, c.toNat < 128 → p (UInt8.ofNat c.toNat) = f c
  byte : ∀ b : UInt8, 128 ≤ b.toNat → p b = false
  char : ∀ c : Char, 128 ≤ c.toNat → f c = false

theorem isUpperByte_iff {b : UInt8} : isUpperByte b ↔ 65 ≤ b.toNat ∧ b.toNat ≤ 90 := by
  simp [isUpperByte, UInt8.le_iff_toNat_le]

theorem isDigitByte_iff {b : UInt8} : isDigitByte b ↔ 48 ≤ b.toNat ∧ b.toNat ≤ 57 := by
  simp [isDigitByte, UInt8.le_iff_toNat_le]

/-- Tests of the same numbers, all of them below 128, tell of each other. -/
theorem tells_of_range {low high : Nat} (hhigh : high < 128)
    (hp : ∀ b : UInt8, p b ↔ low ≤ b.toNat ∧ b.toNat ≤ high)
    (hf : ∀ c : Char, f c ↔ low ≤ c.toNat ∧ c.toNat ≤ high) : Tells p f where
  same c hc := by
    have hnat : (UInt8.ofNat c.toNat).toNat = c.toNat := by
      rw [UInt8.toNat_ofNat', Nat.mod_eq_of_lt (by omega)]
    rw [Bool.eq_iff_iff, hp, hf, hnat]
  byte b hb := by
    rw [← Bool.not_eq_true, hp]
    omega
  char c hc := by
    rw [← Bool.not_eq_true, hf]
    omega

theorem tells_isUpper : Tells isUpperByte Char.isUpper :=
  tells_of_range (by decide) (fun _ => isUpperByte_iff) fun _ => isUpper_iff

theorem tells_isDigit : Tells isDigitByte Char.isDigit :=
  tells_of_range (by decide) (fun _ => isDigitByte_iff) fun _ => isDigit_iff

theorem Tells.or (hp : Tells p f) (hq : Tells q g) :
    Tells (fun b => p b || q b) fun c => f c || g c where
  same c hc := by rw [hp.same c hc, hq.same c hc]
  byte b hb := by rw [hp.byte b hb, hq.byte b hb, Bool.or_false]
  char c hc := by rw [hp.char c hc, hq.char c hc, Bool.or_false]

theorem Tells.all_take (h : Tells p f) (n : Nat) (cs : List Char) :
    ((cs.flatMap String.utf8EncodeChar).take n).all p = (cs.take n).all f := by
  induction cs generalizing n with
  | nil => simp
  | cons c cs ih =>
    cases n with
    | zero => rfl
    | succ n =>
      rw [List.flatMap_cons, List.take_succ_cons, List.all_cons]
      rcases Text.utf8EncodeChar_cases c with ⟨hc, hbytes⟩ | ⟨hc, b, rest, hbytes, hb⟩
      · rw [hbytes, List.singleton_append, List.take_succ_cons, List.all_cons, ih, h.same c hc]
      · rw [hbytes, List.cons_append, List.take_succ_cons, List.all_cons,
          h.byte b (hb b List.mem_cons_self), h.char c hc, Bool.false_and, Bool.false_and]

theorem Tells.all (h : Tells p f) (cs : List Char) :
    (cs.flatMap String.utf8EncodeChar).all p = cs.all f := by
  have htake := h.all_take ((cs.flatMap String.utf8EncodeChar).length + cs.length) cs
  rwa [List.take_of_length_le (by omega), List.take_of_length_le (by omega)] at htake

/-- As long as the first characters have one byte each, as many bytes are theirs. -/
theorem drop_encode (h : ∀ c ∈ cs.take n, c.toNat < 128) :
    (cs.flatMap String.utf8EncodeChar).drop n = (cs.drop n).flatMap String.utf8EncodeChar := by
  induction cs generalizing n with
  | nil => simp
  | cons c cs ih =>
    cases n with
    | zero => rfl
    | succ n =>
      rw [List.take_succ_cons, List.forall_mem_cons] at h
      rcases Text.utf8EncodeChar_cases c with ⟨-, hbytes⟩ | ⟨hc, -⟩
      · rw [List.flatMap_cons, hbytes, List.singleton_append, List.drop_succ_cons,
          List.drop_succ_cons, ih h.2]
      · omega

theorem length_encode (h : ∀ c ∈ cs, c.toNat < 128) :
    (cs.flatMap String.utf8EncodeChar).length = cs.length := by
  induction cs with
  | nil => rfl
  | cons c cs ih =>
    obtain ⟨hc, hcs⟩ := List.forall_mem_cons.1 h
    rcases Text.utf8EncodeChar_cases c with ⟨-, hbytes⟩ | ⟨hlarge, -⟩
    · rw [List.flatMap_cons, hbytes, List.singleton_append, List.length_cons, ih hcs,
        List.length_cons]
    · omega

/-! ## Cuts -/

theorem slice?_of_le {bs : List UInt8} {start stop : Nat} (hstart : start ≤ stop)
    (hstop : stop ≤ bs.length) : slice? bs start stop = some ((bs.take stop).drop start) :=
  if_pos ⟨hstart, hstop⟩

/-- A text can be cut behind characters of one byte each. -/
theorem splitAtByte?_eq (h : ∀ c ∈ cs.take n, c.toNat < 128) (hlen : n ≤ cs.length) :
    splitAtByte? n cs = some (cs.take n, cs.drop n) := by
  induction cs generalizing n with
  | nil =>
    obtain rfl : n = 0 := Nat.le_zero.1 hlen
    rfl
  | cons c cs ih =>
    cases n with
    | zero => rfl
    | succ n =>
      rw [List.take_succ_cons, List.forall_mem_cons] at h
      have hsize : c.utf8Size = 1 :=
        Char.utf8Size_eq_one_iff.2 (UInt32.le_iff_toNat_le.2 (Nat.le_of_lt_succ h.1))
      rw [splitAtByte?, hsize, if_neg (by omega), Nat.add_sub_cancel,
        ih h.2 (Nat.le_of_succ_le_succ hlen)]
      rfl

/-! ## Words -/

theorem mulAdd?_of_lt {a b c : UInt32} (h : a.toNat * b.toNat + c.toNat < 2 ^ 32) :
    ∃ w, mulAdd? a b c = some w ∧ w.toNat = a.toNat * b.toNat + c.toNat := by
  refine ⟨a * b + c, if_pos h, ?_⟩
  rw [UInt32.toNat_add, UInt32.toNat_mul, Nat.mod_add_mod, Nat.mod_eq_of_lt h]

theorem digitOf36?_eq (h : IsSign c) : ∃ v, digitOf36? c = some v ∧ v.toNat = value c := by
  rcases h with h | h
  · have hle : (48 : UInt32).toNat ≤ c.val.toNat := (isDigit_iff.1 h).1
    refine ⟨c.val - 48, if_pos h, ?_⟩
    rw [value_of_isDigit h, UInt32.toNat_sub_of_le _ _ (UInt32.le_iff_toNat_le.2 hle)]
    rfl
  · have hle : (55 : UInt32).toNat ≤ c.val.toNat := le_trans (by decide) (isUpper_iff.1 h).1
    refine ⟨c.val - 55, ?_, ?_⟩
    · rw [digitOf36?, isDigit_eq_false_of_isUpper h, if_neg Bool.false_ne_true, if_pos h]
    · rw [value_of_isUpper h, UInt32.toNat_sub_of_le _ _ (UInt32.le_iff_toNat_le.2 hle)]
      rfl

/-- With a remainder below 97, no step leaves the range of words. -/
theorem appendWord?_eq {r : UInt32} (hr : r.toNat < 97) (h : IsSign c) :
    ∃ r', appendWord? r c = some r' ∧ r'.toNat = appendRemainder r.toNat c := by
  obtain ⟨v, hv, hvalue⟩ := digitOf36?_eq h
  -- The two factors are those of one digit and of two.
  have hfactor : (if 10 ≤ v then (100 : UInt32) else 10).toNat = 10 ^ (numeral [c]).length := by
    rcases h with h | h
    · have hlt : ¬10 ≤ v := by
        rw [UInt32.le_iff_toNat_le, hvalue, not_le]
        exact value_lt_ten h
      rw [if_neg hlt, numeral_of_isDigit h]
      rfl
    · have hle : 10 ≤ v := by
        rw [UInt32.le_iff_toNat_le, hvalue]
        exact (value_of_letter_bounds h).1
      rw [if_pos hle, numeral_of_isUpper h]
      rfl
  have hfits : r.toNat * (if 10 ≤ v then (100 : UInt32) else 10).toNat + v.toNat < 2 ^ 32 := by
    have hlt := value_lt h
    have hle : (if 10 ≤ v then (100 : UInt32) else 10).toNat ≤ 100 := by split <;> decide
    have hmul := Nat.mul_le_mul hr.le hle
    omega
  obtain ⟨w, hw, hnat⟩ := mulAdd?_of_lt hfits
  refine ⟨w % 97, ?_, ?_⟩
  · rw [appendWord?, hv]
    exact congrArg (Option.map (· % 97)) hw
  · rw [UInt32.toNat_mod, hnat, hfactor, hvalue, appendRemainder_eq h]
    rfl

theorem appendRemainder_lt (r : Nat) (c : Char) : appendRemainder r c < 97 := by
  rw [appendRemainder]
  split <;> exact Nat.mod_lt _ (by decide)

theorem foldlM_appendWord? (h : ∀ c ∈ cs, IsSign c) {r : UInt32} (hr : r.toNat < 97) :
    ∃ r', cs.foldlM appendWord? r = some r' ∧ r'.toNat = cs.foldl appendRemainder r.toNat := by
  induction cs generalizing r with
  | nil => exact ⟨r, rfl, rfl⟩
  | cons c cs ih =>
    obtain ⟨hc, hcs⟩ := List.forall_mem_cons.1 h
    obtain ⟨r₁, hstep, hnat⟩ := appendWord?_eq hr hc
    obtain ⟨r₂, hrest, hfold⟩ := ih hcs (hnat ▸ appendRemainder_lt r.toNat c)
    refine ⟨r₂, ?_, ?_⟩
    · rw [List.foldlM_cons, hstep]
      exact hrest
    · rw [List.foldl_cons, ← hnat, hfold]

/-! ## The whole check -/

theorem isSign_take_four (hcountry : (cs.take 2).all Char.isUpper)
    (hcheck : ((cs.drop 2).take 2).all Char.isDigit) : ∀ c ∈ cs.take 4, IsSign c := by
  intro c hc
  rw [List.take_add (i := 2) (j := 2), List.mem_append] at hc
  rcases hc with hc | hc
  · exact .inr (List.all_eq_true.1 hcountry c hc)
  · exact .inl (List.all_eq_true.1 hcheck c hc)

theorem mem_rearranged : c ∈ rearranged cs ↔ c ∈ cs := by
  rw [rearranged, List.mem_append, or_comm, ← List.mem_append, List.take_append_drop]

theorem isSign_of_checked (hfront : ∀ c ∈ cs.take 4, IsSign c)
    (hbody : (cs.drop 4).all fun c => c.isDigit || c.isUpper) : ∀ c ∈ cs, IsSign c := by
  intro c hc
  rw [← List.take_append_drop 4 cs, List.mem_append] at hc
  rcases hc with hc | hc
  · exact hfront c hc
  · exact Bool.or_eq_true_iff.1 (List.all_eq_true.1 hbody c hc)

theorem toNat_lt_of_isSign (h : IsSign c) : c.toNat < 128 := by
  rcases h with h | h
  · exact lt_of_le_of_lt (isDigit_iff.1 h).2 (by decide)
  · exact lt_of_le_of_lt (isUpper_iff.1 h).2 (by decide)

/-- More than four bytes of which the first four are characters are at least four characters. -/
theorem four_le_length (hascii : ∀ c ∈ cs.take 4, c.toNat < 128)
    (hlong : 4 < (cs.flatMap String.utf8EncodeChar).length) : 4 ≤ cs.length := by
  by_contra hshort
  have hnil : cs.drop 4 = [] := List.drop_eq_nil_of_le (by omega)
  have hdrop := drop_encode hascii
  rw [hnil, List.flatMap_nil, List.drop_eq_nil_iff] at hdrop
  omega

theorem utf8ByteSize_of_isSign {s : String} (h : ∀ c ∈ s.toList, IsSign c) :
    s.utf8ByteSize = s.toList.length := by
  rw [← length_bytes, bytes_eq, length_encode fun c hc => toNat_lt_of_isSign (h c hc)]

/-- The check goes through within its bounds for every text, and it is the check of characters. -/
theorem evaluate?_eq_some_parse (s : String) : evaluate? s = some (parse s) := by
  rw [evaluate?, parse]
  dsimp only
  rw [← length_bytes, bytes_eq]
  set cs := s.toList
  set bs := cs.flatMap String.utf8EncodeChar
  by_cases hlen : bs.length < 15 ∨ 34 < bs.length
  · rw [if_pos hlen, if_pos hlen]
  rw [if_neg hlen, if_neg hlen, slice?_of_le (by omega) (by omega),
    slice?_of_le (by omega) (by omega), slice?_of_le (by omega) le_rfl, List.take_length,
    List.drop_take, List.drop_take]
  simp only [Option.bind_eq_bind, Option.bind_some, List.drop_zero]
  rw [tells_isUpper.all_take]
  cases hcountry : (cs.take 2).all Char.isUpper with
  | false => rfl
  | true =>
    have hascii₂ : ∀ c ∈ cs.take 2, c.toNat < 128 := fun c hc =>
      lt_of_le_of_lt (isUpper_iff.1 (List.all_eq_true.1 hcountry c hc)).2 (by decide)
    rw [drop_encode hascii₂, tells_isDigit.all_take]
    cases hcheck : ((cs.drop 2).take 2).all Char.isDigit with
    | false => rfl
    | true =>
      have hfront := isSign_take_four hcountry hcheck
      have hascii₄ : ∀ c ∈ cs.take 4, c.toNat < 128 := fun c hc => toNat_lt_of_isSign (hfront c hc)
      rw [drop_encode hascii₄, (tells_isDigit.or tells_isUpper).all]
      cases hbody : (cs.drop 4).all fun c => c.isDigit || c.isUpper with
      | false => rfl
      | true =>
        have hsigns : ∀ c ∈ rearranged cs, IsSign c := fun c hc =>
          isSign_of_checked hfront hbody c (mem_rearranged.1 hc)
        obtain ⟨r, hr, hremainder⟩ := foldlM_appendWord? hsigns (r := 0) (by decide)
        have hone : r = 1 ↔ remainder (rearranged cs) = 1 := by
          rw [← UInt32.toNat_inj, hremainder]
          rfl
        have hlong : 4 < bs.length := by omega
        rw [splitAtByte?_eq hascii₄ (four_le_length hascii₄ hlong)]
        change ((rearranged cs).foldlM appendWord? 0).bind _ = _
        rw [hr]
        simp [hone, apply_ite some]

end PaymentBooking.Iban
