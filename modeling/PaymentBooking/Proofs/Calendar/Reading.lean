import Mathlib.Data.List.TakeWhile
import Mathlib.Tactic
import PaymentBooking.Message.Cancellation
import PaymentBooking.Proofs.Outcome
import PaymentBooking.Proofs.Text.Numeral

/-! # The day that a time stamp is written for

A time stamp that begins with the four digits of a year, the two of a month and the two of a day is
read as that day or not at all: none of the three readings takes other digits for the date, and what
stands behind the day, a fraction, a leap second and an offset of up to a day among it, decides only
whether there is a reading. The date is written with the same digits again, and so they are in the
correlation id of a cancelled payment.
-/

namespace PaymentBooking

namespace Calendar

open Text

/-- The digits of a year, a month and a day. -/
structure DayDigits where
  year : List Char
  month : List Char
  day : List Char
  isDigit : ∀ c ∈ year ++ month ++ day, c.isDigit
  length : year.length = 4 ∧ month.length = 2 ∧ day.length = 2

namespace DayDigits

def dashed (w : DayDigits) : List Char := w.year ++ '-' :: w.month ++ '-' :: w.day

def compact (w : DayDigits) : List Char := w.year ++ w.month ++ w.day

/-- Whether a date is the day of the digits. -/
structure Names (w : DayDigits) (d : Date) : Prop where
  year : d.year = Nat.ofDigitChars 10 w.year 0
  month : d.month = Nat.ofDigitChars 10 w.month 0
  day : d.day = Nat.ofDigitChars 10 w.day 0

theorem isDigit_year (w : DayDigits) : ∀ c ∈ w.year, c.isDigit := fun c hc =>
  w.isDigit c (List.mem_append_left _ (List.mem_append_left _ hc))

theorem isDigit_month (w : DayDigits) : ∀ c ∈ w.month, c.isDigit := fun c hc =>
  w.isDigit c (List.mem_append_left _ (List.mem_append_right _ hc))

theorem isDigit_day (w : DayDigits) : ∀ c ∈ w.day, c.isDigit := fun c hc =>
  w.isDigit c (List.mem_append_right _ hc)

def date? (w : DayDigits) : Option Date :=
  Date.of? (Nat.ofDigitChars 10 w.year 0) (Nat.ofDigitChars 10 w.month 0)
    (Nat.ofDigitChars 10 w.day 0)

theorem names_of_date? {w : DayDigits} {d : Date} (h : w.date? = some d) : w.Names d := by
  rw [date?, Date.of?] at h
  split_ifs at h
  cases h
  exact ⟨rfl, rfl, rfl⟩

end DayDigits

/-- The dates that a time stamp gives in one of the three forms. -/
inductive Reads (cs : List Char) (d : Date) : Prop
  | internet (h : internetDate? cs = some d)
  | localTime (h : localDate? cs = some d)
  | plain (h : plainDate? cs = some d)

variable {w : DayDigits} {d : Date} {ds rest : List Char} {least : Nat} {s : String}

/-! ## Digits -/

theorem digits_append (hds : ∀ c ∈ ds, c.isDigit) (hleast : least ≤ ds.length) (rest : List Char) :
    digits least ds.length (ds ++ rest) = some (Nat.ofDigitChars 10 ds 0, rest) := by
  have htaken : ((ds ++ rest).take ds.length).takeWhile Char.isDigit = ds := by
    rw [List.take_left, List.takeWhile_eq_self_iff.2 hds]
  rw [digits, htaken, if_neg (not_lt.2 hleast), List.drop_left]

theorem digits_exact {n : Nat} (hds : ∀ c ∈ ds, c.isDigit) (hlength : ds.length = n)
    (rest : List Char) : digits n n (ds ++ rest) = some (Nat.ofDigitChars 10 ds 0, rest) := by
  rw [← hlength]
  exact digits_append hds le_rfl rest

theorem exactly_cons (c : Char) (cs : List Char) : exactly c (c :: cs) = some ((), cs) := if_pos rfl

theorem not_isBlank_of_isDigit {c : Char} (h : c.isDigit) : isBlank c = false := by
  have hrange := toNat_of_isDigit h
  simp only [isBlank, Bool.or_eq_false_iff, Bool.and_eq_false_iff, decide_eq_false_iff_not,
    beq_eq_false_iff_ne]
  omega

theorem dropBlank_append (hds : ∀ c ∈ ds, c.isDigit) (hne : ds ≠ []) (rest : List Char) :
    dropBlank (ds ++ rest) = ds ++ rest := by
  obtain ⟨c, cs, rfl⟩ := List.exists_cons_of_ne_nil hne
  have hc := not_isBlank_of_isDigit (hds c List.mem_cons_self)
  rw [List.cons_append, dropBlank, List.dropWhile_cons_of_neg (by simp [hc])]

theorem loose_append (hds : ∀ c ∈ ds, c.isDigit) (hlength : ds.length = 2) (rest : List Char) :
    loose (ds ++ rest) = some (Nat.ofDigitChars 10 ds 0, rest) := by
  have hne : ds ≠ [] := List.ne_nil_of_length_pos (by omega)
  rw [loose, dropBlank_append hds hne, ← hlength]
  exact digits_append hds (by omega) rest

theorem looseYear_append (hds : ∀ c ∈ ds, c.isDigit) (hlength : ds.length = 4) (rest : List Char) :
    looseYear (ds ++ rest) = some ((Nat.ofDigitChars 10 ds 0 : Int), rest) := by
  have hne : ds ≠ [] := List.ne_nil_of_length_pos (by omega)
  have hdigits : digits 1 4 (ds ++ rest) = some (Nat.ofDigitChars 10 ds 0, rest) := by
    rw [← hlength]
    exact digits_append hds (by omega) rest
  -- A digit in front is no sign.
  have hsign : ∀ c cs, ds ++ rest = c :: cs → c.isDigit := by
    intro c cs h
    obtain ⟨d, ds, rfl⟩ := List.exists_cons_of_ne_nil hne
    exact (List.cons.inj h).1 ▸ hds d List.mem_cons_self
  rw [looseYear, dropBlank_append hds hne]
  split
  · exact absurd (hsign _ _ ‹_›) (by decide)
  · exact absurd (hsign _ _ ‹_›) (by decide)
  · rw [hdigits]
    rfl

/-! ## Readings -/

theorem looseDay_dashed (w : DayDigits) (rest : List Char) :
    looseDay (w.dashed ++ rest) =
      some (((Nat.ofDigitChars 10 w.year 0 : Int), Nat.ofDigitChars 10 w.month 0,
        Nat.ofDigitChars 10 w.day 0), rest) := by
  obtain ⟨hyear, hmonth, hday⟩ := w.length
  rw [looseDay, DayDigits.dashed]
  simp only [List.append_assoc, List.cons_append, looseYear_append w.isDigit_year hyear,
    loose_append w.isDigit_month hmonth, loose_append w.isDigit_day hday, exactly_cons,
    Option.bind_eq_bind, Option.bind_some]

theorem date?_of_plainDate? (h : plainDate? (w.dashed ++ rest) = some d) : w.date? = some d := by
  rw [plainDate?, looseDay_dashed] at h
  simp only [Option.bind_eq_bind, Option.bind_some] at h
  split_ifs at h
  exact h

theorem date?_of_localDate? (h : localDate? (w.dashed ++ rest) = some d) : w.date? = some d := by
  rw [localDate?, looseDay_dashed] at h
  simp only [Option.bind_eq_bind, Option.bind_some, Option.bind_eq_some_iff] at h
  -- The time of day and the fraction have to be there and leave no trace in the date.
  obtain ⟨_, -, _, -, _, -, _, -, _, -, _, -, _, -, _, -, h⟩ := h
  split_ifs at h
  exact h

theorem of_bind_eq_some {α β : Type} {o : Option α} {f : α → Option β} {a : α} {b : β}
    (ho : o = some a) (h : o.bind f = some b) : f a = some b := by
  rwa [ho] at h

theorem date?_of_internetDate? (h : internetDate? (w.dashed ++ rest) = some d) :
    w.date? = some d := by
  obtain ⟨hyear, hmonth, hday⟩ := w.length
  have happend : w.dashed ++ rest = w.year ++ '-' :: (w.month ++ '-' :: (w.day ++ rest)) := by
    simp [DayDigits.dashed]
  rw [internetDate?, happend] at h
  have h := of_bind_eq_some (digits_exact w.isDigit_year hyear _) h
  have h := of_bind_eq_some (exactly_cons _ _) h
  have h := of_bind_eq_some (digits_exact w.isDigit_month hmonth _) h
  have h := of_bind_eq_some (exactly_cons _ _) h
  have h := of_bind_eq_some (digits_exact w.isDigit_day hday _) h
  simp only [Option.bind_eq_bind, Option.bind_eq_some_iff] at h
  -- Nor does the offset, the last but one of these steps.
  obtain ⟨_, -, _, -, _, -, _, -, _, -, _, -, _, -, _, -, _, -, h⟩ := h
  split_ifs at h
  exact h

/-- No form of a time stamp gives another day than its digits. -/
theorem Reads.date?_eq (h : Reads (w.dashed ++ rest) d) : w.date? = some d := by
  cases h with
  | internet h => exact date?_of_internetDate? h
  | localTime h => exact date?_of_localDate? h
  | plain h => exact date?_of_plainDate? h

theorem reads_of_dayOf? (h : dayOf? s = some d) : Reads s.toList d := by
  rw [dayOf?] at h
  cases hinternet : internetDate? s.toList with
  | some d' =>
    rw [hinternet] at h
    exact .internet (hinternet.trans h)
  | none =>
    rw [hinternet] at h
    cases hlocal : localDate? s.toList with
    | some d' =>
      rw [hlocal] at h
      exact .localTime (hlocal.trans h)
    | none =>
      rw [hlocal] at h
      exact .plain h

/-- A time stamp in one of the forms has a day, if only in an earlier form. -/
theorem exists_dayOf? (h : Reads s.toList d) : ∃ d', dayOf? s = some d' := by
  rw [← Option.isSome_iff_exists, dayOf?]
  cases h with
  | internet h => simp [h]
  | localTime h => simp [h]
  | plain h => simp [h]

/-- The forms agree, and so it does not matter which of them is tried first. -/
theorem Reads.dayOf?_eq (hs : s.toList = w.dashed ++ rest) (h : Reads s.toList d) :
    dayOf? s = some d := by
  obtain ⟨d', hd'⟩ := exists_dayOf? h
  have hreads := reads_of_dayOf? hd'
  rw [hs] at h hreads
  rw [hd', ← hreads.date?_eq, h.date?_eq]

/-! ## Writings -/

theorem digitChar_of_isDigit {c : Char} (h : c.isDigit) : Nat.digitChar (c.toNat - 48) = c := by
  have hrange := toNat_of_isDigit h
  have hall : ∀ n, 48 ≤ n → n ≤ 57 → Nat.digitChar (n - 48) = Char.ofNat n := by decide
  rw [hall c.toNat hrange.1 hrange.2, Char.ofNat_toNat]

end Calendar

namespace Date

open Calendar Text

variable {w : DayDigits} {d : Date} {ds : List Char} {places : Nat}

theorem padded_succ {r : Nat} (hplaces : 0 < places) (n : Nat) (hr : r < 10) :
    padded (places + 1) (10 * n + r) = padded places n ++ [Nat.digitChar r] := by
  rcases n.eq_zero_or_pos with rfl | hpos
  · obtain ⟨m, rfl⟩ := Nat.exists_eq_succ_of_ne_zero hplaces.ne'
    rw [padded, padded, Nat.mul_zero, Nat.zero_add, Nat.toDigits_of_lt_base hr, Nat.toDigits_zero]
    simp [List.leftpad, List.replicate_succ']
  · rw [padded, padded, ← Nat.toDigits_append_toDigits (by decide) hpos hr,
      Nat.toDigits_of_lt_base hr]
    simp [List.leftpad]

/-- A number read of digits is written in as many places with the same digits. -/
theorem padded_ofDigitChars (hds : ∀ c ∈ ds, c.isDigit) (hlength : ds.length = places)
    (hplaces : 0 < places) : padded places (Nat.ofDigitChars 10 ds 0) = ds := by
  induction ds using List.reverseRecOn generalizing places with
  | nil => exact absurd hlength hplaces.ne
  | append_singleton ds c ih =>
    have hc : c.isDigit := hds c (by simp)
    have hlast : c.toNat - 48 < 10 := by
      have hrange := toNat_of_isDigit hc
      omega
    have hvalue : Nat.ofDigitChars 10 (ds ++ [c]) 0 =
        10 * Nat.ofDigitChars 10 ds 0 + (c.toNat - 48) := by
      rw [Nat.ofDigitChars_append, Nat.ofDigitChars_cons, Nat.ofDigitChars_nil]
      rfl
    rw [← hlength, List.length_append, List.length_singleton, hvalue]
    by_cases hempty : ds = []
    · rw [hempty, Nat.ofDigitChars_nil, Nat.mul_zero, Nat.zero_add, padded,
        Nat.toDigits_of_lt_base hlast, digitChar_of_isDigit hc]
      rfl
    · have hpos := List.length_pos_iff.2 hempty
      have hinit := ih (fun d hd => hds d (List.mem_append_left _ hd)) rfl hpos
      rw [padded_succ hpos _ hlast, hinit, digitChar_of_isDigit hc]

theorem ofDigitChars_lt (hds : ∀ c ∈ ds, c.isDigit) (hlength : ds.length = places)
    (hplaces : 0 < places) : Nat.ofDigitChars 10 ds 0 < 10 ^ places := by
  have hwritten := congrArg List.length (padded_ofDigitChars hds hlength hplaces)
  rw [padded, List.length_leftpad, hlength] at hwritten
  exact (Nat.length_toDigits_le_iff (by decide) hplaces).1 (by omega)

theorem toList_compact (h : w.Names d) : d.compact.toList = w.compact := by
  obtain ⟨hyear, hmonth, hday⟩ := w.length
  have hyearText : d.yearText = w.year := by
    -- Four digits take no sign.
    have hlt := ofDigitChars_lt w.isDigit_year hyear (by decide)
    rw [yearText, h.year, if_neg (by omega), if_neg (by omega), Int.natAbs_natCast]
    exact padded_ofDigitChars w.isDigit_year hyear (by decide)
  have hmonthText : d.monthText = w.month := by
    rw [monthText, h.month]
    exact padded_ofDigitChars w.isDigit_month hmonth (by decide)
  have hdayText : d.dayText = w.day := by
    rw [dayText, h.day]
    exact padded_ofDigitChars w.isDigit_day hday (by decide)
  rw [compact, String.toList_ofList, hyearText, hmonthText, hdayText, DayDigits.compact]

end Date

/-! ## Cancellations -/

namespace CancellationReference

open Calendar

/-- What the first transaction of a cancellation says of the cancelled payment: its bank, the time
stamp of its creation and its end-to-end id. -/
structure Carries (raw bank stamp id : String) : Prop where
  exists_transaction : ∃ node, Message.transaction .camt056 raw = .ok node ∧
    (Message.textAt? node ["OrgnlTxRef", "DbtrAgt", "FinInstnId", "BIC"] <|>
      Message.textAt? node ["OrgnlTxRef", "DbtrAgt", "FinInstnId", "BICFI"]) = some bank ∧
    Message.textAt? node ["OrgnlGrpInf", "OrgnlCreDtTm"] = some stamp ∧
    Message.textAt? node ["OrgnlEndToEndId"] = some id

theorem present_eq_ok_iff {α : Type} {value : Option α} {what : String} {a : α} :
    present value what = .ok a ↔ value = some a := by
  cases value <;> simp [present]

/-- A reference can be had of a cancellation exactly if it carries one and its time stamp has a
day. -/
theorem ofMessage_eq_ok_iff {raw : String} {r : CancellationReference} :
    ofMessage raw = .ok r ↔
      ∃ stamp, Carries raw r.debtorBank stamp r.endToEndId ∧
        dayOf? stamp = some r.creationDate := by
  constructor
  · intro h
    obtain ⟨node, hnode, h⟩ := bind_eq_ok_iff.1 h
    obtain ⟨bank, hbank, h⟩ := bind_eq_ok_iff.1 h
    obtain ⟨date, hdate, h⟩ := bind_eq_ok_iff.1 h
    obtain ⟨id, hid, h⟩ := bind_eq_ok_iff.1 h
    cases h
    obtain ⟨stamp, hstamp, hday⟩ := Option.bind_eq_some_iff.1 (present_eq_ok_iff.1 hdate)
    exact ⟨stamp, ⟨node, hnode, present_eq_ok_iff.1 hbank, hstamp, present_eq_ok_iff.1 hid⟩, hday⟩
  · rintro ⟨stamp, ⟨node, hnode, hbank, hstamp, hid⟩, hday⟩
    have hdate := Option.bind_eq_some_iff.2 ⟨stamp, hstamp, hday⟩
    exact bind_eq_ok_iff.2 ⟨node, hnode, bind_eq_ok_iff.2 ⟨_, present_eq_ok_iff.2 hbank,
      bind_eq_ok_iff.2 ⟨_, present_eq_ok_iff.2 hdate,
        bind_eq_ok_iff.2 ⟨_, present_eq_ok_iff.2 hid, rfl⟩⟩⟩⟩

/-- A time stamp that begins with a day and can be read in any of the forms is of that day, and the
correlation id of a payment whose cancellation carries the time stamp shows its digits. -/
theorem correlationId_of_dashed {s : String} {w : DayDigits} {rest : List Char} {d : Date}
    (hs : s.toList = w.dashed ++ rest) (h : Reads s.toList d) :
    dayOf? s = some d ∧ w.Names d ∧
      ∀ raw bank id, Carries raw bank s id →
        ∃ r, ofMessage raw = .ok r ∧
          r.correlationId = bank ++ "_" ++ String.ofList w.compact ++ "_" ++ id := by
  have hday := h.dayOf?_eq hs
  have hnames : w.Names d := by
    rw [hs] at h
    exact DayDigits.names_of_date? h.date?_eq
  refine ⟨hday, hnames, fun raw bank id hcarries => ?_⟩
  refine ⟨⟨bank, d, id⟩, ofMessage_eq_ok_iff.2 ⟨s, hcarries, hday⟩, ?_⟩
  rw [correlationId, ← Date.toList_compact hnames, String.ofList_toList]

/-- A cancellation with a leap second and an offset of almost a day behind New Year's Day. -/
def newYear : String :=
  "\x7b\"FIToFIPmtCxlReq\":\x7b\"Undrlyg\":[\x7b\"TxInf\":[\x7b" ++
    "\"OrgnlGrpInf\":\x7b\"OrgnlCreDtTm\":\"2024-01-01T00:00:60.999+23:59\"\x7d," ++
    "\"OrgnlEndToEndId\":\"E1\"," ++
    "\"OrgnlTxRef\":\x7b\"DbtrAgt\":\x7b\"FinInstnId\":\x7b\"BICFI\":\"BANK\"\x7d\x7d\x7d" ++
    "\x7d]\x7d]\x7d\x7d"

theorem carries_newYear : Carries newYear "BANK" "2024-01-01T00:00:60.999+23:59" "E1" := by
  have hcarries : (Message.transaction .camt056 newYear).toOption.any fun node =>
      (Message.textAt? node ["OrgnlTxRef", "DbtrAgt", "FinInstnId", "BIC"] <|>
        Message.textAt? node ["OrgnlTxRef", "DbtrAgt", "FinInstnId", "BICFI"]) = some "BANK" ∧
      Message.textAt? node ["OrgnlGrpInf", "OrgnlCreDtTm"] =
        some "2024-01-01T00:00:60.999+23:59" ∧
      Message.textAt? node ["OrgnlEndToEndId"] = some "E1" := by
    decide +kernel
  obtain ⟨node, hnode, htexts⟩ := exists_of_any hcarries
  exact ⟨node, hnode, of_decide_eq_true htexts⟩

/-- In universal time that is in the year before. -/
theorem correlationId_of_dashed_newYear :
    Reads "2024-01-01T00:00:60.999+23:59".toList ⟨2024, 1, 1, by decide⟩ ∧
      ∃ r, ofMessage newYear = .ok r ∧ r.correlationId = "BANK_20240101_E1" := by
  have hreads : Reads "2024-01-01T00:00:60.999+23:59".toList ⟨2024, 1, 1, by decide⟩ :=
    .internet (by decide +kernel)
  let w : DayDigits :=
    ⟨['2', '0', '2', '4'], ['0', '1'], ['0', '1'], by simp, by decide⟩
  have hs : "2024-01-01T00:00:60.999+23:59".toList = w.dashed ++ "T00:00:60.999+23:59".toList := by
    decide
  obtain ⟨-, -, hid⟩ := correlationId_of_dashed hs hreads
  obtain ⟨r, hr, hid⟩ := hid newYear "BANK" "E1" carries_newYear
  exact ⟨hreads, r, hr, hid⟩

end CancellationReference

end PaymentBooking
