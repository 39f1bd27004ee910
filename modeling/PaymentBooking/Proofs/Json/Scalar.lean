import Mathlib.Data.List.TakeWhile
import Mathlib.Tactic
import PaymentBooking.Json.Reader
import PaymentBooking.Json.Writer
import PaymentBooking.Proofs.Text.Numeral

/-! # Written texts and whole numbers are read back

What is written for a text has no bare quote, backslash or control character, so it is read up to
its own closing quote, whatever the text is. A whole number is read up to the end of its digits,
which is where it ends if a comma or a closing bracket follows.
-/

namespace PaymentBooking.Json

/-! ## Texts -/

/-- The unit as which a written character is read: control characters without a letter of their own
come as code units. -/
def TextUnit.ofChar (c : Char) : TextUnit :=
  if c.toNat < 32 ∧ c ∉ ['\x08', '\t', '\n', '\x0c', '\r'] then .code c.toNat else .char c

private theorem codeUnit?_control :
    ∀ n < 32, codeUnit? '0' '0' (hexDigit (n / 16)) (hexDigit (n % 16)) = some n := by decide

theorem readUnits?_escapeChar (c : Char) (cs : List Char) :
    readUnits? (escapeChar c ++ cs) =
      (readUnits? cs).map fun p => (TextUnit.ofChar c :: p.1, p.2) := by
  by_cases hletter : c ∈ ['"', '\\', '\x08', '\t', '\n', '\x0c', '\r']
  · simp only [List.mem_cons, List.not_mem_nil, or_false] at hletter
    rcases hletter with rfl | rfl | rfl | rfl | rfl | rfl | rfl <;>
      simp [escapeChar, readUnits?, unescape?, TextUnit.ofChar, Option.map_eq_bind]
  · simp only [List.mem_cons, List.not_mem_nil, or_false, not_or] at hletter
    obtain ⟨hquote, hslash, hb, ht, hn, hf, hr⟩ := hletter
    by_cases hcontrol : c.toNat < 32
    · have hcode := codeUnit?_control c.toNat hcontrol
      simp [escapeChar, readUnits?, TextUnit.ofChar, Option.map_eq_bind, *]
    · have hescape : escapeChar c = [c] := by simp [escapeChar, *]
      have hunit : TextUnit.ofChar c = .char c := by simp [TextUnit.ofChar, *]
      rw [hescape, List.singleton_append, hunit, readUnits?, if_neg hcontrol]
      · simp [Option.map_eq_bind]
      · exact hquote
      · exact fun _ _ _ _ _ h => absurd h hslash
      · exact fun _ _ h => absurd h hslash

theorem readUnits?_flatMap (cs rest : List Char) :
    readUnits? (cs.flatMap escapeChar ++ '"' :: rest) = some (cs.map TextUnit.ofChar, rest) := by
  induction cs with
  | nil => rfl
  | cons c cs ih =>
    rw [List.flatMap_cons, List.append_assoc, readUnits?_escapeChar, ih]
    rfl

theorem textOf?_ofChar (s : String) : Raw.textOf? (s.toList.map TextUnit.ofChar) = some s := by
  have hcharacters : ∀ cs : List Char,
      Raw.characters? none (cs.map TextUnit.ofChar) = some cs := by
    intro cs
    induction cs with
    | nil => rfl
    | cons c cs ih =>
      rw [List.map_cons, TextUnit.ofChar]
      split
      · rename_i hcontrol
        have hhigh : Raw.isHighSurrogate c.toNat = false := by simp [Raw.isHighSurrogate]; omega
        have hlow : Raw.isLowSurrogate c.toNat = false := by simp [Raw.isLowSurrogate]; omega
        simp [Raw.characters?, hhigh, hlow, ih]
      · simp [Raw.characters?, ih]
  rw [Raw.textOf?, hcharacters, Option.map_some, String.ofList_toList]

/-! ## Whole numbers -/

/-- What may follow a value: nothing, a comma or a closing bracket. -/
def Follows (rest : List Char) : Prop := ∀ c ∈ rest.head?, c ∈ [',', ']', '\x7d']

theorem follows_cons {c : Char} {cs : List Char} (h : c ∈ [',', ']', '\x7d']) :
    Follows (c :: cs) := fun _ hd => Option.some.inj hd ▸ h

/-- Nothing that may follow a value goes on with a numeral. -/
theorem Follows.ne {c d : Char} {cs : List Char} (h : Follows (c :: cs))
    (hd : d ∉ [',', ']', '\x7d']) : c ≠ d := by
  rintro rfl
  exact hd (h c rfl)

theorem readDigits_append {ds rest : List Char} (hds : ds.all Char.isDigit) (h : Follows rest) :
    readDigits (ds ++ rest) = (ds, rest) := by
  rw [List.all_eq_true] at hds
  have hrest : rest.takeWhile Char.isDigit = [] ∧ rest.dropWhile Char.isDigit = rest := by
    cases rest with
    | nil => exact ⟨rfl, rfl⟩
    | cons c rest =>
      have hc : ¬c.isDigit := by
        intro hc
        have hmem := h c rfl
        simp only [List.mem_cons, List.not_mem_nil, or_false] at hmem
        rcases hmem with rfl | rfl | rfl <;> cases hc
      exact ⟨List.takeWhile_cons_of_neg hc, List.dropWhile_cons_of_neg hc⟩
  rw [readDigits, List.takeWhile_append_of_pos hds, List.dropWhile_append_of_pos hds, hrest.1,
    hrest.2, List.append_nil]

def Numeral.ofInt (n : Int) : Numeral := ⟨n < 0, Nat.toDigits 10 n.natAbs, [], none⟩

theorem readMagnitude?_toDigits (negative : Bool) (n : Nat) {rest : List Char} (h : Follows rest) :
    readMagnitude? negative (Nat.toDigits 10 n ++ rest) =
      some (⟨negative, Nat.toDigits 10 n, [], none⟩, rest) := by
  have hdigits := readDigits_append (Text.all_isDigit_toDigits n) h
  have hlead : ¬((Nat.toDigits 10 n).head? = some '0' ∧ 1 < (Nat.toDigits 10 n).length) := by
    rintro ⟨hhead, hlength⟩
    rcases Nat.eq_zero_or_pos n with rfl | hpos
    · exact absurd hlength (by decide)
    · exact Text.head?_toDigits_ne_zero hpos hhead
  have hwhole : readWhole? (Nat.toDigits 10 n ++ rest) = some (Nat.toDigits 10 n, rest) := by
    simp [readWhole?, readDigits?, hdigits, hlead]
  have hfraction : readFraction? rest = some ([], rest) := by
    cases rest with
    | nil => rfl
    | cons c rest =>
      rw [readFraction?]
      rintro cs heq
      exact h.ne (by decide) (List.cons.inj heq).1
  have hexponent : readExponent? rest = some (none, rest) := by
    cases rest with
    | nil => rfl
    | cons c rest =>
      rw [readExponent?]
      · rintro cs heq
        exact h.ne (by decide) (List.cons.inj heq).1
      · rintro cs heq
        exact h.ne (by decide) (List.cons.inj heq).1
  simp [readMagnitude?, hwhole, hfraction, hexponent]

theorem readNumeral?_toString (n : Int) {rest : List Char} (h : Follows rest) :
    readNumeral? ((toString n).toList ++ rest) = some (.ofInt n, rest) := by
  have hmagnitude := readMagnitude?_toDigits (decide (n < 0)) n.natAbs h
  rw [Text.toList_toString]
  by_cases hneg : n < 0
  · rw [if_pos hneg, List.cons_append, readNumeral?]
    simpa [hneg, Numeral.ofInt] using hmagnitude
  · obtain ⟨c, cs, hn, hc⟩ := Text.toDigits_eq_cons n.natAbs
    rw [if_neg hneg]
    rw [decide_eq_false hneg] at hmagnitude
    rw [Numeral.ofInt, decide_eq_false hneg, ← hmagnitude, hn, List.cons_append, readNumeral?]
    rintro ds heq
    exact Text.ne_of_isDigit hc (by decide) (List.cons.inj heq).1

/-- Digits of a number that fits are all taken in. -/
theorem Numeral.absorb_eq {significand : Nat} {ds : List Char}
    (h : Nat.ofDigitChars 10 ds significand < 2 ^ 64) :
    absorb significand ds = (Nat.ofDigitChars 10 ds significand, []) := by
  induction ds generalizing significand with
  | nil => rfl
  | cons c ds ih =>
    have hnext : significand * 10 + (c.toNat - '0'.toNat) =
        10 * significand + (c.toNat - '0'.toNat) := by rw [Nat.mul_comm]
    rw [Nat.ofDigitChars_cons, ← hnext] at h ⊢
    rw [absorb, if_pos ((Text.le_ofDigitChars _ ds).trans_lt h), ih h]

theorem number?_ofInt (n : Whole) : (Numeral.ofInt n.value).number? = some (.whole n) := by
  obtain ⟨z, hlower, hupper⟩ := n
  have hfits : Nat.ofDigitChars 10 (Nat.toDigits 10 z.natAbs) 0 < 2 ^ 64 := by
    rw [Nat.ofDigitChars_ten_toDigits]
    omega
  have habsorb := Numeral.absorb_eq hfits
  rw [Nat.ofDigitChars_ten_toDigits] at habsorb
  have hwhole : Numeral.whole? (decide (z < 0)) z.natAbs = some (.whole ⟨z, hlower, hupper⟩) := by
    by_cases hneg : z < 0
    · have hrange : ¬(z.natAbs = 0 ∨ 2 ^ 63 < z.natAbs) := by omega
      have habs : -(z.natAbs : Int) = z := by omega
      rw [Numeral.whole?, decide_eq_true hneg, if_pos rfl, if_neg hrange, habs]
      exact dif_pos ⟨hlower, hupper⟩
    · have habs : (z.natAbs : Int) = z := by omega
      rw [Numeral.whole?, decide_eq_false hneg, if_neg Bool.false_ne_true, habs]
      exact dif_pos ⟨hlower, hupper⟩
  simp [Numeral.number?, Numeral.ofInt, habsorb, hwhole]

end PaymentBooking.Json
