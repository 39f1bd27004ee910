import Mathlib.Data.List.TakeWhile
import PaymentBooking.Json.Reader

/-! # Reading does not depend on fuel

The readers of nested values are given more fuel than there are characters, and every value takes at
least one of them. So a text is read if it is with any fuel at all, and a blank behind its last
character changes nothing.
-/

namespace PaymentBooking.Json

/-! ## One step of a reader -/

def word? (w : List Char) (raw : Raw) (cs : List Char) : Option (Raw × List Char) :=
  if w.isPrefixOf cs then some (raw, cs.drop w.length) else none

def enclosed? (close : Char) (empty : Raw) (inner : List Char → Option (Raw × List Char))
    (cs : List Char) : Option (Raw × List Char) :=
  match skipBlank cs with
  | [] => inner []
  | c :: cs => if c = close then some (empty, cs) else inner (c :: cs)

/-- Reads what is behind an item: a comma with more items behind it, or the closing bracket. -/
def continued? {α : Type} (close : Char) (single : α) (more : List Char → Option (α × List Char))
    (cs : List Char) : Option (α × List Char) :=
  match skipBlank cs with
  | [] => none
  | c :: cs => if c = ',' then more cs else if c = close then some (single, cs) else none

abbrev ItemsReader := List Char → Option (List Raw × List Char)
abbrev MembersReader := List Char → Option (List (List TextUnit × Raw) × List Char)

def valueFrom? (items : ItemsReader) (members : MembersReader) (c : Char) (cs : List Char) :
    Option (Raw × List Char) :=
  if c = 'n' then word? ['u', 'l', 'l'] .null cs
  else if c = 't' then word? ['r', 'u', 'e'] (.bool true) cs
  else if c = 'f' then word? ['a', 'l', 's', 'e'] (.bool false) cs
  else if c = '"' then (readUnits? cs).map fun p => (.text p.1, p.2)
  else if c = '[' then
    enclosed? ']' (.array []) (fun cs => (items cs).map fun p => (.array p.1, p.2)) cs
  else if c = '\x7b' then
    enclosed? '\x7d' (.object []) (fun cs => (members cs).map fun p => (.object p.1, p.2)) cs
  else (readNumeral? (c :: cs)).map fun p => (.number p.1, p.2)

/-- One step of reading a value, with readers of the items and members in it. -/
def valueStep? (items : ItemsReader) (members : MembersReader) (cs : List Char) :
    Option (Raw × List Char) :=
  match skipBlank cs with
  | [] => none
  | c :: cs => valueFrom? items members c cs

theorem readNumeral?_cons_of_ne {c : Char} (hdigit : c.isDigit = false) (hminus : c ≠ '-')
    (cs : List Char) : readNumeral? (c :: cs) = none := by
  rw [readNumeral?]
  · simp [readMagnitude?, readWhole?, readDigits?, readDigits, hdigit]
  · rintro cs' heq
    exact hminus (List.cons.inj heq).1

theorem readValue?_succ (fuel : Nat) (cs : List Char) :
    readValue? (fuel + 1) cs = valueStep? (readItems? fuel) (readMembers? fuel) cs := by
  rw [readValue?, valueStep?]
  generalize skipBlank cs = cs
  cases cs with
  | nil => rfl
  | cons c cs =>
    simp only [valueFrom?, word?, List.isPrefixOf_iff_prefix]
    split
    case h_1 t heq => cases heq; simp
    case h_2 t heq => cases heq; simp
    case h_3 t heq => cases heq; simp
    case h_4 t heq => cases heq; simp
    case h_5 t heq =>
      cases heq
      simp only [Char.reduceEq, if_true, if_false, enclosed?]
      cases skipBlank cs with
      | nil => rfl
      | cons d ds =>
        by_cases hd : d = ']'
        · subst hd; rfl
        · simp [hd]
    case h_6 t heq =>
      cases heq
      simp only [Char.reduceEq, if_true, if_false, enclosed?]
      cases skipBlank cs with
      | nil => rfl
      | cons d ds =>
        by_cases hd : d = '\x7d'
        · subst hd; rfl
        · simp [hd]
    case h_7 hnull htrue hfalse hquote harray hobject =>
      have hq : c ≠ '"' := by rintro rfl; exact hquote cs rfl
      have ha : c ≠ '[' := by rintro rfl; exact harray cs rfl
      have ho : c ≠ '\x7b' := by rintro rfl; exact hobject cs rfl
      by_cases hn : c = 'n'
      · subst hn
        have hw : ¬['u', 'l', 'l'] <+: cs := by rintro ⟨t, rfl⟩; exact hnull t rfl
        simp [hw, readNumeral?_cons_of_ne]
      by_cases ht : c = 't'
      · subst ht
        have hw : ¬['r', 'u', 'e'] <+: cs := by rintro ⟨t, rfl⟩; exact htrue t rfl
        simp [hw, readNumeral?_cons_of_ne]
      by_cases hf : c = 'f'
      · subst hf
        have hw : ¬['a', 'l', 's', 'e'] <+: cs := by rintro ⟨t, rfl⟩; exact hfalse t rfl
        simp [hw, readNumeral?_cons_of_ne]
      simp [*]

theorem readItems?_succ (fuel : Nat) (cs : List Char) :
    readItems? (fuel + 1) cs = (readValue? fuel cs).bind fun p =>
      continued? ']' [p.1] (fun cs => (readItems? fuel cs).map fun q => (p.1 :: q.1, q.2)) p.2 := by
  rw [readItems?]
  refine congrArg _ (funext fun ⟨item, cs⟩ => ?_)
  dsimp only [continued?]
  cases skipBlank cs with
  | nil => rfl
  | cons c cs =>
    by_cases hcomma : c = ','
    · subst hcomma; rfl
    · by_cases hclose : c = ']'
      · subst hclose; rfl
      · simp [hcomma, hclose]

theorem readMembers?_succ (fuel : Nat) (cs : List Char) :
    readMembers? (fuel + 1) cs = (readName? cs).bind fun n => (readValue? fuel n.2).bind fun p =>
      continued? '\x7d' [(n.1, p.1)]
        (fun cs => (readMembers? fuel cs).map fun q => ((n.1, p.1) :: q.1, q.2)) p.2 := by
  rw [readMembers?]
  refine congrArg _ (funext fun ⟨name, cs⟩ => ?_)
  refine congrArg (Option.bind _) (funext fun ⟨value, cs⟩ => ?_)
  dsimp only [continued?]
  cases skipBlank cs with
  | nil => rfl
  | cons c cs =>
    by_cases hcomma : c = ','
    · subst hcomma; rfl
    · by_cases hclose : c = '\x7d'
      · subst hclose; rfl
      · simp [hcomma, hclose]

/-! ## What is taken -/

variable {cs rest : List Char}

theorem length_skipBlank_le (cs : List Char) : (skipBlank cs).length ≤ cs.length :=
  (List.dropWhile_suffix _).length_le

theorem length_of_skipBlank {c : Char} (h : skipBlank cs = c :: rest) :
    rest.length < cs.length := by
  have hle := length_skipBlank_le cs
  rw [h, List.length_cons] at hle
  exact hle

theorem length_of_readUnits? {units : List TextUnit} (h : readUnits? cs = some (units, rest)) :
    rest.length < cs.length := by
  fun_induction readUnits? cs generalizing units with
  | case1 => cases h
  | case2 cs => cases h; simp
  | case3 a b c d cs ih =>
    obtain ⟨n, -, h⟩ := Option.bind_eq_some_iff.1 h
    obtain ⟨p, hp, h⟩ := Option.bind_eq_some_iff.1 h
    cases h
    have := ih hp
    simp only [List.length_cons]
    omega
  | case4 e cs _ ih =>
    obtain ⟨n, -, h⟩ := Option.bind_eq_some_iff.1 h
    obtain ⟨p, hp, h⟩ := Option.bind_eq_some_iff.1 h
    cases h
    have := ih hp
    simp only [List.length_cons]
    omega
  | case5 => cases h
  | case6 c cs _ _ _ _ ih =>
    obtain ⟨p, hp, h⟩ := Option.bind_eq_some_iff.1 h
    cases h
    exact (ih hp).trans (Nat.lt_succ_self _)

theorem length_of_readDigits? {ds : List Char} (h : readDigits? cs = some (ds, rest)) :
    rest.length < cs.length := by
  have hsplit : (readDigits cs).1 ++ (readDigits cs).2 = cs := List.takeWhile_append_dropWhile
  rw [readDigits?] at h
  dsimp only at h
  split at h
  · cases h
  · rename_i hempty
    cases h
    have hpos : 0 < (readDigits cs).1.length := by
      rw [List.length_pos_iff]
      simpa using hempty
    have hlength := congrArg List.length hsplit
    rw [List.length_append] at hlength
    omega

theorem length_of_readFraction? {ds : List Char} (h : readFraction? cs = some (ds, rest)) :
    rest.length ≤ cs.length := by
  rw [readFraction?.eq_def] at h
  split at h
  · exact (length_of_readDigits? h).le.trans (Nat.le_succ _)
  · cases h
    exact le_rfl

theorem length_of_readExponentBody? {e : Exponent} (h : readExponentBody? cs = some (e, rest)) :
    rest.length ≤ cs.length := by
  rw [readExponentBody?.eq_def] at h
  split at h
  all_goals
    obtain ⟨⟨ds, rest⟩, hds, h⟩ := Option.map_eq_some_iff.1 h
    cases h
    have := length_of_readDigits? hds
    grind

theorem length_of_readExponent? {e : Option Exponent} (h : readExponent? cs = some (e, rest)) :
    rest.length ≤ cs.length := by
  rw [readExponent?.eq_def] at h
  split at h
  · obtain ⟨⟨e, rest⟩, he, h⟩ := Option.map_eq_some_iff.1 h
    cases h
    exact (length_of_readExponentBody? he).trans (Nat.le_succ _)
  · obtain ⟨⟨e, rest⟩, he, h⟩ := Option.map_eq_some_iff.1 h
    cases h
    exact (length_of_readExponentBody? he).trans (Nat.le_succ _)
  · cases h
    exact le_rfl

theorem length_of_readMagnitude? {negative : Bool} {n : Numeral}
    (h : readMagnitude? negative cs = some (n, rest)) : rest.length < cs.length := by
  obtain ⟨⟨whole, cs₁⟩, hwhole, h⟩ := Option.bind_eq_some_iff.1 h
  obtain ⟨⟨fraction, cs₂⟩, hfraction, h⟩ := Option.bind_eq_some_iff.1 h
  obtain ⟨⟨exponent, cs₃⟩, hexponent, h⟩ := Option.bind_eq_some_iff.1 h
  cases h
  obtain ⟨⟨ds, cs₄⟩, hds, hwhole⟩ := Option.bind_eq_some_iff.1 hwhole
  dsimp only at hwhole
  split at hwhole
  · cases hwhole
  · cases hwhole
    have := length_of_readDigits? hds
    have := length_of_readFraction? hfraction
    have := length_of_readExponent? hexponent
    omega

theorem length_of_readNumeral? {n : Numeral} (h : readNumeral? cs = some (n, rest)) :
    rest.length < cs.length := by
  rw [readNumeral?.eq_def] at h
  split at h
  · exact (length_of_readMagnitude? h).trans (Nat.lt_succ_self _)
  · exact length_of_readMagnitude? h

theorem length_of_readName? {name : List TextUnit} (h : readName? cs = some (name, rest)) :
    rest.length < cs.length := by
  rw [readName?] at h
  split at h
  · rename_i cs₁ hcs₁
    obtain ⟨⟨units, cs₂⟩, hunits, h⟩ := Option.bind_eq_some_iff.1 h
    dsimp only at h
    split at h
    · rename_i cs₃ hcs₃
      cases h
      have := length_of_skipBlank hcs₁
      have := length_of_readUnits? hunits
      have := length_of_skipBlank hcs₃
      omega
    · cases h
  · cases h

/-! ## Fuel -/

/-- A reader that takes at least one character, and reads the same with any fuel that is not below
the number of characters taken. -/
def Settles {α : Type} (reader : Nat → List Char → Option (α × List Char)) (fuel : Nat) : Prop :=
  ∀ ⦃cs a rest⦄, reader fuel cs = some (a, rest) →
    rest.length < cs.length ∧
      ∀ ⦃k⦄, cs.length ≤ k + rest.length → reader k cs = some (a, rest)

theorem Settles.nil {α : Type} {reader : Nat → List Char → Option (α × List Char)} {fuel : Nat}
    (h : Settles reader fuel) : reader fuel [] = none := by
  cases hread : reader fuel [] with
  | none => rfl
  | some p => exact absurd (h hread).1 (Nat.not_lt_zero _)

theorem length_of_word? {w : List Char} {raw raw' : Raw} (h : word? w raw cs = some (raw', rest)) :
    rest.length ≤ cs.length := by
  rw [word?] at h
  split at h
  · cases h
    simp
  · cases h

/-- What is behind an opening bracket takes at least one character, and what is inside is read from
no more than there is. -/
theorem enclosed?_settles {α : Type} {close : Char} {empty raw : Raw} {wrap : α → Raw}
    {inner inner' : List Char → Option (α × List Char)}
    (h : enclosed? close empty (fun cs => (inner cs).map fun p => (wrap p.1, p.2)) cs =
      some (raw, rest))
    (hinner : ∀ {cs' a}, cs'.length ≤ cs.length → inner cs' = some (a, rest) →
      rest.length < cs'.length ∧ inner' cs' = some (a, rest)) :
    rest.length < cs.length ∧
      enclosed? close empty (fun cs => (inner' cs).map fun p => (wrap p.1, p.2)) cs =
        some (raw, rest) := by
  have hlength := length_skipBlank_le cs
  rw [enclosed?] at h ⊢
  cases hskip : skipBlank cs with
  | nil =>
    simp only [hskip] at h
    obtain ⟨p, hp, heq⟩ := Option.map_eq_some_iff.1 h
    obtain ⟨rfl, rfl⟩ := Prod.mk.inj heq
    exact absurd (hinner (Nat.zero_le _) hp).1 (Nat.not_lt_zero _)
  | cons c cs' =>
    simp only [hskip] at h ⊢
    split_ifs at h ⊢
    · cases h
      exact ⟨length_of_skipBlank hskip, rfl⟩
    · obtain ⟨p, hp, heq⟩ := Option.map_eq_some_iff.1 h
      obtain ⟨rfl, rfl⟩ := Prod.mk.inj heq
      rw [hskip] at hlength
      obtain ⟨hlt, hsame⟩ := hinner hlength hp
      exact ⟨hlt.trans_le hlength, by rw [hsame]; rfl⟩

/-- A value takes at least one character, and what is inside it is read from fewer. -/
theorem valueStep?_settles {items items' : ItemsReader} {members members' : MembersReader}
    {raw : Raw} (h : valueStep? items members cs = some (raw, rest))
    (hitems : ∀ {cs' is}, cs'.length < cs.length → items cs' = some (is, rest) →
      rest.length < cs'.length ∧ items' cs' = some (is, rest))
    (hmembers : ∀ {cs' ms}, cs'.length < cs.length → members cs' = some (ms, rest) →
      rest.length < cs'.length ∧ members' cs' = some (ms, rest)) :
    rest.length < cs.length ∧ valueStep? items' members' cs = some (raw, rest) := by
  rw [valueStep?] at h ⊢
  split at h <;> rename_i hskip
  · cases h
  · rename_i c cs'
    have hlength := length_of_skipBlank hskip
    simp only [valueFrom?] at h ⊢
    split_ifs at h ⊢
    · exact ⟨(length_of_word? h).trans_lt hlength, h⟩
    · exact ⟨(length_of_word? h).trans_lt hlength, h⟩
    · exact ⟨(length_of_word? h).trans_lt hlength, h⟩
    · obtain ⟨p, hp, heq⟩ := Option.map_eq_some_iff.1 h
      obtain ⟨rfl, rfl⟩ := Prod.mk.inj heq
      exact ⟨(length_of_readUnits? hp).trans hlength, h⟩
    · obtain ⟨hlt, hsame⟩ := enclosed?_settles h fun hle => hitems (hle.trans_lt hlength)
      exact ⟨hlt.trans hlength, hsame⟩
    · obtain ⟨hlt, hsame⟩ := enclosed?_settles h fun hle => hmembers (hle.trans_lt hlength)
      exact ⟨hlt.trans hlength, hsame⟩
    · obtain ⟨p, hp, heq⟩ := Option.map_eq_some_iff.1 h
      obtain ⟨rfl, rfl⟩ := Prod.mk.inj heq
      have hnumeral := length_of_readNumeral? hp
      rw [List.length_cons] at hnumeral
      exact ⟨by omega, h⟩

theorem continued?_eq_some {α : Type} {close : Char} {single a : α}
    {more : List Char → Option (α × List Char)}
    (h : continued? close single more cs = some (a, rest)) :
    (skipBlank cs = close :: rest ∧ a = single) ∨
      ∃ cs', skipBlank cs = ',' :: cs' ∧ more cs' = some (a, rest) := by
  rw [continued?] at h
  split at h
  · cases h
  · rename_i c cs' hskip
    split_ifs at h with hcomma hclose
    · exact .inr ⟨cs', hcomma ▸ hskip, h⟩
    · cases h
      exact .inl ⟨hclose ▸ hskip, rfl⟩

theorem continued?_of_comma {α : Type} {close : Char} {single : α}
    {more : List Char → Option (α × List Char)} {cs' : List Char} (h : skipBlank cs = ',' :: cs') :
    continued? close single more cs = more cs' := by
  simp [continued?, h]

theorem continued?_of_close {α : Type} {close : Char} {single : α}
    {more : List Char → Option (α × List Char)} (hne : close ≠ ',')
    (h : skipBlank cs = close :: rest) :
    continued? close single more cs = some (single, rest) := by
  simp [continued?, h, hne]

section Items

variable {α β : Type} {fuel : Nat}

/-- What is behind an item takes at least one character, and reads the same with the fuel for it. -/
theorem continued?_settles {close : Char} (hne : close ≠ ',') {single : α} {join : β → α}
    {more : Nat → List Char → Option (β × List Char)} (hmore : Settles more fuel) {a : α}
    (h : continued? close single
      (fun cs => (more fuel cs).map fun q => (join q.1, q.2)) cs = some (a, rest)) :
    rest.length < cs.length ∧ ∀ {k}, cs.length ≤ k + rest.length + 1 →
      continued? close single
        (fun cs => (more k cs).map fun q => (join q.1, q.2)) cs = some (a, rest) := by
  rcases continued?_eq_some h with ⟨hclose, rfl⟩ | ⟨cs', hcomma, hrest⟩
  · exact ⟨length_of_skipBlank hclose, fun _ => continued?_of_close hne hclose⟩
  · obtain ⟨q, hq, heq⟩ := Option.map_eq_some_iff.1 hrest
    obtain ⟨rfl, rfl⟩ := Prod.mk.inj heq
    obtain ⟨hlt, hsame⟩ := hmore hq
    have hlength := length_of_skipBlank hcomma
    refine ⟨hlt.trans hlength, fun hk => ?_⟩
    rw [continued?_of_comma hcomma, hsame (by omega)]
    rfl

end Items

theorem settles_readItems?_succ {fuel : Nat} (hvalue : Settles readValue? fuel)
    (hitems : Settles readItems? fuel) : Settles readItems? (fuel + 1) := by
  intro cs is rest h
  rw [readItems?_succ] at h
  obtain ⟨p, hp, h⟩ := Option.bind_eq_some_iff.1 h
  obtain ⟨hpLength, hpSame⟩ := hvalue hp
  obtain ⟨hlength, hsame⟩ := continued?_settles (by decide) hitems h
  refine ⟨hlength.trans hpLength, fun {k} hk => ?_⟩
  cases k with
  | zero => omega
  | succ k =>
    rw [readItems?_succ, hpSame (by omega), Option.bind_some]
    exact hsame (by omega)

theorem settles_readMembers?_succ {fuel : Nat} (hvalue : Settles readValue? fuel)
    (hmembers : Settles readMembers? fuel) : Settles readMembers? (fuel + 1) := by
  intro cs ms rest h
  rw [readMembers?_succ] at h
  obtain ⟨n, hn, h⟩ := Option.bind_eq_some_iff.1 h
  obtain ⟨p, hp, h⟩ := Option.bind_eq_some_iff.1 h
  have hname := length_of_readName? hn
  obtain ⟨hpLength, hpSame⟩ := hvalue hp
  obtain ⟨hlength, hsame⟩ := continued?_settles (by decide) hmembers h
  refine ⟨by omega, fun {k} hk => ?_⟩
  cases k with
  | zero => omega
  | succ k =>
    rw [readMembers?_succ, hn, Option.bind_some, hpSame (by omega), Option.bind_some]
    exact hsame (by omega)

theorem settles_readValue?_succ {fuel : Nat} (hitems : Settles readItems? fuel)
    (hmembers : Settles readMembers? fuel) : Settles readValue? (fuel + 1) := by
  intro cs raw rest h
  rw [readValue?_succ] at h
  have hlength := (valueStep?_settles h (fun _ hi => ⟨(hitems hi).1, hi⟩)
    fun _ hm => ⟨(hmembers hm).1, hm⟩).1
  refine ⟨hlength, fun {k} hk => ?_⟩
  cases k with
  | zero => omega
  | succ k =>
    rw [readValue?_succ]
    refine (valueStep?_settles h (fun hlt hi => ?_) fun hlt hm => ?_).2
    · obtain ⟨hrest, hsame⟩ := hitems hi
      exact ⟨hrest, hsame (by omega)⟩
    · obtain ⟨hrest, hsame⟩ := hmembers hm
      exact ⟨hrest, hsame (by omega)⟩

theorem settles (fuel : Nat) :
    Settles readValue? fuel ∧ Settles readItems? fuel ∧ Settles readMembers? fuel := by
  induction fuel with
  | zero => exact ⟨nofun, nofun, nofun⟩
  | succ fuel ih =>
    obtain ⟨hvalue, hitems, hmembers⟩ := ih
    exact ⟨settles_readValue?_succ hitems hmembers, settles_readItems?_succ hvalue hitems,
      settles_readMembers?_succ hvalue hmembers⟩

/-- A text is read exactly if, with any fuel, a value is with nothing but blanks behind it. -/
theorem readRaw?_eq_some_iff {s : String} {raw : Raw} :
    readRaw? s = some raw ↔
      ∃ fuel rest, readValue? fuel s.toList = some (raw, rest) ∧ skipBlank rest = [] := by
  rw [readRaw?]
  constructor
  · intro h
    split at h
    · rename_i raw' rest hread
      split at h
      · rename_i hrest
        cases h
        exact ⟨_, rest, hread, by simpa using hrest⟩
      · cases h
    · cases h
  · rintro ⟨fuel, rest, hread, hrest⟩
    obtain ⟨-, hsame⟩ := (settles fuel).1 hread
    have hfull := hsame (k := 2 * s.toList.length + 2) (by omega)
    simp only [hfull, hrest, List.isEmpty_nil, if_true]

end PaymentBooking.Json
