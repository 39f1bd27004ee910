import Mathlib.Data.List.TakeWhile
import Mathlib.Tactic
import PaymentBooking.Ledger.Address
import PaymentBooking.LedgerSettings
import PaymentBooking.Proofs.Text.Numeral
import PaymentBooking.Proofs.Text.Replace

/-! # Addresses are read as they are built

The address of a command is read as that command, whatever the account, as long as the base path
ends a segment, has no query and is not the path of the tables. The address of a row is read as a
row of its table about the resource that has been put in.
-/

namespace PaymentBooking

namespace Address

/-! ## Segments of a path -/

theorem segments_append (as bs : List Char) :
    segments (as ++ '/' :: bs) = segments as ++ segments bs := by
  simp [segments, List.splitOn_append_cons_self]

theorem segments_nil : segments [] = [] := rfl

theorem segments_slash (cs : List Char) : segments ('/' :: cs) = segments cs :=
  segments_append [] cs

theorem segments_singleton {cs : List Char} (hne : cs ≠ []) (hslash : '/' ∉ cs) :
    segments cs = [String.ofList cs] := by
  simp [segments, List.splitOn_eq_singleton hslash, hne]

theorem segments_dropWhile (cs : List Char) :
    segments (cs.dropWhile (· = '/')) = segments cs := by
  induction cs with
  | nil => rfl
  | cons c cs ih =>
    by_cases hc : c = '/'
    · rw [List.dropWhile_cons_of_pos (by simpa using hc), ih, hc, segments_slash]
    · rw [List.dropWhile_cons_of_neg (by simpa using hc)]

/-- Behind a path that ends in a slash, or behind none, a new segment begins. -/
theorem segments_append_of_getLast? {cs : List Char} (h : ∀ c ∈ cs.getLast?, c = '/')
    (ds : List Char) : segments (cs ++ ds) = segments cs ++ segments ds := by
  rcases List.eq_nil_or_concat cs with rfl | ⟨front, c, rfl⟩
  · rfl
  · obtain rfl : c = '/' := h c (by simp)
    rw [List.concat_eq_append, List.append_assoc, List.singleton_append, segments_append,
      segments_append, segments_nil, List.append_nil]

theorem splitQuery_append {path query : List Char} (h : '?' ∉ path) :
    splitQuery (path ++ '?' :: query) = (path, query) := by
  have hpath : ∀ c ∈ path, decide (c ≠ '?') = true :=
    fun c hc => decide_eq_true fun hq => h (hq ▸ hc)
  rw [splitQuery, List.takeWhile_append_of_pos hpath, List.dropWhile_append_of_pos hpath]
  simp

theorem splitQuery_of_not_mem {path : List Char} (h : '?' ∉ path) :
    splitQuery path = (path, []) := by
  have hpath : ∀ c ∈ path, decide (c ≠ '?') = true :=
    fun c hc => decide_eq_true fun hq => h (hq ▸ hc)
  rw [splitQuery, List.takeWhile_eq_self_iff.2 hpath, List.dropWhile_eq_nil_iff.2 hpath]
  rfl

/-! ## Commands and rows -/

theorem readCommand_command (action : LedgerAction) :
    readCommand ("command=" ++ action.command) = .ok action := by
  cases action <;> decide

theorem segments_toString (n : Int) : segments (toString n).toList = [toString n] := by
  obtain ⟨c, cs, hn, -⟩ := Text.toString_eq_cons n
  have hne : (toString n).toList ≠ [] := by
    rw [hn]
    exact List.cons_ne_nil c cs
  rw [segments_singleton hne (Text.not_mem_toString n (by decide) (by decide)),
    String.ofList_toList]

theorem splitQuery_ofTransaction {base : List Char} (hquery : '?' ∉ base) (account : Int64)
    (action : LedgerAction) :
    splitQuery (ofTransaction (String.ofList base) account action).toList =
      (base ++ (toString account.toInt).toList ++ '/' :: "transactions".toList,
        ("command=" ++ action.command).toList) := by
  have hnumber : toString account = toString account.toInt := rfl
  have hchars : (ofTransaction (String.ofList base) account action).toList =
      (base ++ (toString account.toInt).toList ++ '/' :: "transactions".toList) ++
        '?' :: ("command=" ++ action.command).toList := by
    simp [ofTransaction, hnumber]
  have hpath : '?' ∉ base ++ (toString account.toInt).toList ++ '/' :: "transactions".toList := by
    simp only [List.mem_append, not_or]
    exact ⟨⟨hquery, Text.not_mem_toString _ (by decide) (by decide)⟩, by decide⟩
  rw [hchars, splitQuery_append hpath]

/-- The segments of a command are those of its base, the account and the word for its commands. -/
theorem segments_ofTransaction {base : List Char} (hbase : ∀ c ∈ base.getLast?, c = '/')
    (account : Int64) :
    segments (base ++ (toString account.toInt).toList ++ '/' :: "transactions".toList) =
      segments base ++ [toString account, "transactions"] := by
  rw [segments_append, segments_append_of_getLast? hbase, segments_toString, List.append_assoc]
  rfl

theorem read_transaction {base : List Char} (hbase : ∀ c ∈ base.getLast?, c = '/')
    (hquery : '?' ∉ base) (hsegments : segments base ≠ ["datatables"]) (account : Int64)
    (action : LedgerAction) :
    read (ofTransaction (String.ofList base) account action) =
      .ok (.transaction account action) := by
  rw [read, splitQuery_ofTransaction hquery]
  simp only [segments_ofTransaction hbase]
  split
  · rename_i table resource heq
    -- Exactly three segments can only be a base of one.
    have hlen := congrArg List.length heq
    simp only [List.length_append, List.length_cons, List.length_nil] at hlen
    obtain ⟨name, hname⟩ := List.length_eq_one_iff.1 (by omega : (segments base).length = 1)
    rw [hname] at heq
    rw [hname, (List.cons.inj heq).1] at hsegments
    exact absurd rfl hsegments
  · rw [List.reverse_append]
    simp only [List.reverse_cons, List.reverse_nil, List.nil_append, List.cons_append]
    rw [readTransaction, Text.readInt64?_toString, String.ofList_toList]
    simp only [readCommand_command]
    rfl

/-- The address of a row once a number has been put in: into the table, too, if it has a
placeholder. -/
theorem toList_replaceAll_ofDetail (table : String) (n : Int) :
    (Text.replaceAll resourcePlaceholder (toString n) (ofDetail table)).toList =
      "datatables".toList ++ '/' ::
        (Text.replaceFrom resourcePlaceholder.toList (toString n).toList 0 table.toList ++
          '/' :: (toString n).toList) := by
  have hchars : (ofDetail table).toList =
      "datatables".toList ++ '/' :: (table.toList ++ '/' :: resourcePlaceholder.toList) := by
    simp [ofDetail]
  have hword : Text.replaceFrom resourcePlaceholder.toList (toString n).toList 0
      "datatables".toList = "datatables".toList := Text.replaceFrom_of_not_occursIn (by decide)
  rw [Text.replaceAll, String.toList_ofList, hchars,
    Text.replaceFrom_append_cons (by decide) (by decide),
    Text.replaceFrom_append_cons (by decide) (by decide), Text.replaceFrom_self (by decide), hword]

/-- Three parts of a path are its segments if there is no slash in them. -/
theorem segments_detail {table : List Char} (hne : table ≠ []) (hslash : '/' ∉ table) (n : Int) :
    segments ("datatables".toList ++ '/' :: (table ++ '/' :: (toString n).toList)) =
      ["datatables", String.ofList table, toString n] := by
  rw [segments_append, segments_append, segments_singleton (by decide) (by decide),
    segments_singleton hne hslash, segments_toString, String.ofList_toList]
  rfl

/-- A number that is put into a table brings no character but digits and a sign. -/
theorem not_mem_filled {table : List Char} {c : Char} (hsign : c ≠ '-') (hdigit : c.isDigit = false)
    (h : c ∉ table) (n : Int) :
    c ∉ Text.replaceFrom resourcePlaceholder.toList (toString n).toList 0 table := by
  intro hmem
  rcases Text.mem_of_mem_replaceFrom hmem with hput | hthere
  · exact Text.not_mem_toString n hsign hdigit hput
  · exact h hthere

/-- The address of a row becomes that of a row about the resource whose number is put in, and the
number is put into its table, too. -/
theorem read_filled_detail {table : String} (hne : table ≠ "") (hslash : '/' ∉ table.toList)
    (hquery : '?' ∉ table.toList) {address : String} {resource : Int}
    (haddress : address =
      Text.replaceAll resourcePlaceholder (toString resource) (ofDetail table)) :
    read address = readDetail address
      (Text.replaceAll resourcePlaceholder (toString resource) table) (toString resource) := by
  have hreplaced := toList_replaceAll_ofDetail table resource
  rw [← haddress] at hreplaced
  have hnumber : (toString resource).toList ≠ [] := by
    obtain ⟨c, cs, hchars, -⟩ := Text.toString_eq_cons resource
    rw [hchars]
    exact List.cons_ne_nil c cs
  have hpath : '?' ∉ "datatables".toList ++ '/' ::
      (Text.replaceFrom resourcePlaceholder.toList (toString resource).toList 0 table.toList ++
        '/' :: (toString resource).toList) := by
    simp only [List.mem_append, List.mem_cons, not_or]
    exact ⟨by decide, by decide, not_mem_filled (by decide) (by decide) hquery _, by decide,
      Text.not_mem_toString _ (by decide) (by decide)⟩
  rw [read, hreplaced, splitQuery_of_not_mem hpath]
  simp only [segments_detail (Text.replaceFrom_ne_nil hnumber (by simpa using hne))
    (not_mem_filled (by decide) (by decide) hslash _)]
  rfl

/-- A table without a placeholder stays as it is. -/
theorem read_replaceAll_ofDetail {table : String} (hne : table ≠ "") (hslash : '/' ∉ table.toList)
    (hquery : '?' ∉ table.toList)
    (hplaceholder : Text.occursIn resourcePlaceholder.toList table.toList = false)
    {address : String}
    {resource : Int}
    (haddress : address =
      Text.replaceAll resourcePlaceholder (toString resource) (ofDetail table)) :
    read address = readDetail address table (toString resource) := by
  rw [read_filled_detail hne hslash hquery haddress, Text.replaceAll,
    Text.replaceFrom_of_not_occursIn hplaceholder, String.ofList_toList]

end Address

/-- Settings under which no address is taken for another one. -/
structure LedgerSettings.Addressable (s : LedgerSettings) : Prop where
  base_slash : s.basePath.toList.getLast? = some '/'
  base_query : '?' ∉ s.basePath.toList
  base_segments : Address.segments s.basePath.toList ≠ ["datatables"]
  table_nonempty : s.detailTable ≠ ""
  table_slash : '/' ∉ s.detailTable.toList
  table_query : '?' ∉ s.detailTable.toList
  table_placeholder : Text.occursIn resourcePlaceholder.toList s.detailTable.toList = false

namespace LedgerSettings

theorem addressable_standard : standard.Addressable := by
  constructor <;> decide

theorem Addressable.read_transaction {s : LedgerSettings} (h : s.Addressable) (account : Int64)
    (action : LedgerAction) :
    Address.read (Address.ofTransaction s.relativeBase account action) =
      .ok (.transaction account action) := by
  refine Address.read_transaction ?_ ?_ ?_ account action
  · intro c hc
    obtain ⟨front, hfront⟩ :=
      List.dropWhile_suffix (l := s.basePath.toList) (fun c => decide (c = '/'))
    have hlast := h.base_slash
    rw [← hfront, List.getLast?_append, hc] at hlast
    exact Option.some.inj hlast
  · exact fun hmem => h.base_query ((List.dropWhile_sublist _).mem hmem)
  · rw [Address.segments_dropWhile]
    exact h.base_segments

theorem Addressable.read_detail {s : LedgerSettings} (h : s.Addressable) {address : String}
    {resource : Nat}
    (haddress : address =
      Text.replaceAll resourcePlaceholder (toString resource) (Address.ofDetail s.detailTable)) :
    Address.read address = Address.readDetail address s.detailTable (toString resource) := by
  have hnumber : toString resource = toString (resource : Int) := rfl
  rw [hnumber] at haddress ⊢
  exact Address.read_replaceAll_ofDetail h.table_nonempty h.table_slash h.table_query
    h.table_placeholder haddress

end LedgerSettings

end PaymentBooking
