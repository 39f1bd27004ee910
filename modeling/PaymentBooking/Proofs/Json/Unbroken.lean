import PaymentBooking.Json.Writer
import PaymentBooking.Proofs.Text.Numeral

/-! # Written values are on one line

Whatever a value holds, no control character stands in what is written for it: within texts they are
escaped, and numbers have none.
-/

namespace PaymentBooking.Json

/-- Without control characters, and so without line feeds. -/
def Unbroken (cs : List Char) : Prop := ∀ c ∈ cs, 32 ≤ c.toNat

instance (cs : List Char) : Decidable (Unbroken cs) := List.decidableBAll _ cs

variable {as bs : List Char}

theorem unbroken_cons {c : Char} : Unbroken (c :: as) ↔ 32 ≤ c.toNat ∧ Unbroken as :=
  List.forall_mem_cons

theorem unbroken_append : Unbroken (as ++ bs) ↔ Unbroken as ∧ Unbroken bs := List.forall_mem_append

theorem Unbroken.not_mem_newline (h : Unbroken as) : '\n' ∉ as := fun hmem =>
  absurd (h '\n' hmem) (by decide)

/-! ## Texts -/

private theorem unbroken_control :
    ∀ n < 32, Unbroken ['\\', 'u', '0', '0', hexDigit (n / 16), hexDigit (n % 16)] := by decide

theorem unbroken_escapeChar (c : Char) : Unbroken (escapeChar c) := by
  generalize hcs : escapeChar c = cs
  rw [escapeChar] at hcs
  repeat' split at hcs
  all_goals subst hcs
  iterate 7 decide
  · exact unbroken_control _ ‹_›
  · rintro d hd
    obtain rfl := List.mem_singleton.1 hd
    omega

theorem unbroken_writeText (s : String) : Unbroken (writeText s) := by
  have hchars : Unbroken (s.toList.flatMap escapeChar) := by
    intro d hd
    obtain ⟨c, -, hc⟩ := List.mem_flatMap.1 hd
    exact unbroken_escapeChar c d hc
  rw [writeText, unbroken_append, unbroken_cons]
  exact ⟨⟨by decide, hchars⟩, by decide⟩

/-! ## Numbers -/

theorem unbroken_of_isDigit (h : ∀ c ∈ as, c.isDigit) : Unbroken as := by
  intro c hc
  have hrange := Text.toNat_of_isDigit (h c hc)
  omega

theorem unbroken_toDigits (n : Nat) : Unbroken (Nat.toDigits 10 n) :=
  unbroken_of_isDigit fun _ => Text.isDigit_of_mem_toDigits

theorem unbroken_replicate (n : Nat) : Unbroken (List.replicate n '0') := by
  intro c hc
  rw [List.eq_of_mem_replicate hc]
  decide

theorem unbroken_positional (d : Binary64.Digits) : Unbroken d.positional := by
  rw [Binary64.Digits.positional]
  split
  · exact unbroken_append.2 ⟨unbroken_toDigits _, unbroken_replicate _⟩
  · have hpadded := unbroken_append.2 ⟨unbroken_replicate
      ((-d.exponent).toNat + 1 - (Nat.toDigits 10 d.number).length), unbroken_toDigits d.number⟩
    refine unbroken_append.2 ⟨fun c hc => hpadded c (List.mem_of_mem_take hc),
      unbroken_cons.2 ⟨by decide, fun c hc => hpadded c (List.mem_of_mem_drop hc)⟩⟩

theorem unbroken_scientific (d : Binary64.Digits) : Unbroken (Number.scientific d) := by
  have hexponent : Unbroken ('e' :: (if d.leading < 0 then '-' else '+') ::
      Nat.toDigits 10 d.leading.natAbs) := by
    refine unbroken_cons.2 ⟨by decide, unbroken_cons.2 ⟨?_, unbroken_toDigits _⟩⟩
    split <;> decide
  have hdigits := unbroken_toDigits d.number
  rw [Number.scientific]
  split <;> rename_i heq <;> rw [heq] at hdigits
  · exact hdigits
  · exact unbroken_cons.2 ⟨(unbroken_cons.1 hdigits).1, hexponent⟩
  · obtain ⟨hc, hcs⟩ := unbroken_cons.1 hdigits
    exact unbroken_append.2 ⟨unbroken_cons.2 ⟨hc, unbroken_cons.2 ⟨by decide, hcs⟩⟩, hexponent⟩

theorem unbroken_realText (x : Binary64) : Unbroken (Number.realText x) := by
  have hpositional := unbroken_positional (x.shortest .toEven)
  rw [Number.realText]
  split
  · decide
  · dsimp only
    split
    · split
      · exact unbroken_append.2 ⟨hpositional, by decide⟩
      · exact hpositional
    · exact unbroken_scientific _

theorem unbroken_number (n : Number) : Unbroken n.text := by
  cases n with
  | whole n =>
    rw [Number.text, Text.toList_toString]
    split
    · exact unbroken_cons.2 ⟨by decide, unbroken_toDigits _⟩
    · exact unbroken_toDigits _
  | real x =>
    rw [Number.text]
    split
    · exact unbroken_cons.2 ⟨by decide, unbroken_realText x⟩
    · exact unbroken_realText x

/-! ## Values -/

theorem unbroken_separated {items : List (List Char)} (h : ∀ item ∈ items, Unbroken item) :
    Unbroken (separated items) := by
  induction items with
  | nil => exact nofun
  | cons item items ih =>
    obtain ⟨hitem, hitems⟩ := List.forall_mem_cons.1 h
    cases items with
    | nil => exact hitem
    | cons next items =>
      exact unbroken_append.2 ⟨hitem, unbroken_cons.2 ⟨by decide, ih hitems⟩⟩

theorem unbroken_writeMember (name : String) (h : Unbroken as) : Unbroken (writeMember name as) :=
  unbroken_append.2 ⟨unbroken_writeText name, unbroken_cons.2 ⟨by decide, h⟩⟩

mutual

theorem unbroken_write : (v : Json) → Unbroken v.write
  | .null => by decide
  | .bool true => by decide
  | .bool false => by decide
  | .number n => unbroken_number n
  | .text s => unbroken_writeText s
  | .array items =>
    unbroken_append.2 ⟨unbroken_cons.2 ⟨by decide, unbroken_separated (unbroken_writeItems items)⟩,
      by decide⟩
  | .object members =>
    unbroken_append.2 ⟨unbroken_cons.2
      ⟨by decide, unbroken_separated (unbroken_writeMembers members)⟩, by decide⟩

theorem unbroken_writeItems : (items : List Json) → ∀ item ∈ writeItems items, Unbroken item
  | [] => nofun
  | item :: items =>
    List.forall_mem_cons.2 ⟨unbroken_write item, unbroken_writeItems items⟩

theorem unbroken_writeMembers :
    (members : List (String × Json)) → ∀ member ∈ writeMembers members, Unbroken member
  | [] => nofun
  | (name, value) :: members =>
    List.forall_mem_cons.2
      ⟨unbroken_writeMember name (unbroken_write value), unbroken_writeMembers members⟩

end

end PaymentBooking.Json
