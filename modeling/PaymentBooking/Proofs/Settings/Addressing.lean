import PaymentBooking.Proofs.Ledger.Address
import PaymentBooking.Proofs.Outcome
import PaymentBooking.Settings.Document

/-! # Which settings address the ledger rightly

Settings are accepted with any base path that is not empty and with any table. Every account is
addressed by its own number and every row by its own table exactly if the base path and the table
are as `LedgerSettings.Addressable` says; under other settings, which are accepted as well, some
requests are refused or are taken for requests about another account.
-/

namespace PaymentBooking

namespace Text

/-- A sign that stands behind another character belongs to no number. -/
theorem readSigned?_of_mem {c : Char} {cs : List Char} (h : '-' ∈ cs) :
    readSigned? (c :: cs) = none := by
  have hnone : ∀ ds : List Char, '-' ∈ ds → readNat? ds = none := by
    intro ds hmem
    have hdigits : ds.all Char.isDigit = false := by
      rw [List.all_eq_false]
      exact ⟨'-', hmem, by decide⟩
    simp [readNat?, hdigits]
  rw [readSigned?.eq_def]
  split
  · rename_i heq
    cases heq
    rw [hnone cs h]
    rfl
  · rename_i heq
    rw [readUnsigned?.eq_def]
    split
    · rename_i hplus
      cases hplus
      rw [hnone cs h]
      rfl
    · rw [hnone _ (List.mem_cons_of_mem c h)]
      rfl

end Text

namespace Address

/-! ## What is known of an address that is read -/

theorem mem_splitOn {cs seg : List Char} (h : seg ∈ cs.splitOn '/') :
    '/' ∉ seg ∧ ∀ c ∈ seg, c ∈ cs := by
  induction cs generalizing seg with
  | nil =>
    rw [List.splitOn_nil, List.mem_singleton] at h
    simp [h]
  | cons d cs ih =>
    by_cases hd : d = '/'
    · rw [hd, ← List.nil_append ('/' :: cs), List.splitOn_append_cons_self, List.splitOn_nil,
        List.singleton_append, List.mem_cons] at h
      rcases h with rfl | h
      · simp
      · exact ⟨(ih h).1, fun c hc => List.mem_cons_of_mem d ((ih h).2 c hc)⟩
    · have hsplit : (d :: cs).splitOn '/' = (cs.splitOn '/').modifyHead (d :: ·) := by
        rw [List.splitOn, List.splitOnP_cons_eq_if_modifyHead, if_neg (by simpa using hd)]
        rfl
      rw [hsplit] at h
      cases hrest : cs.splitOn '/' with
      | nil =>
        rw [hrest] at h
        cases h
      | cons first rest =>
        rw [hrest, List.modifyHead_cons, List.mem_cons] at h
        rcases h with rfl | h
        · obtain ⟨hslash, hmem⟩ := ih (hrest ▸ List.mem_cons_self)
          refine ⟨?_, ?_⟩
          · rw [List.mem_cons, not_or]
            exact ⟨Ne.symm hd, hslash⟩
          · intro c hc
            rcases List.mem_cons.1 hc with rfl | hc
            · exact List.mem_cons_self
            · exact List.mem_cons_of_mem d (hmem c hc)
        · obtain ⟨hslash, hmem⟩ := ih (hrest ▸ List.mem_cons_of_mem first h)
          exact ⟨hslash, fun c hc => List.mem_cons_of_mem d (hmem c hc)⟩

theorem mem_segments {path : List Char} {name : String} (h : name ∈ segments path) :
    name ≠ "" ∧ '/' ∉ name.toList ∧ ∀ c ∈ name.toList, c ∈ path := by
  obtain ⟨seg, hseg, rfl⟩ := List.mem_map.1 h
  obtain ⟨hsplit, hne⟩ := List.mem_filter.1 hseg
  obtain ⟨hslash, hmem⟩ := mem_splitOn hsplit
  rw [String.toList_ofList]
  refine ⟨?_, hslash, hmem⟩
  intro hempty
  have hnil : seg = [] := by simpa using congrArg String.toList hempty
  simp [hnil] at hne

theorem readCommand_eq_ok {query : String} {action : LedgerAction}
    (h : readCommand query = .ok action) : query = "command=" ++ action.command := by
  rw [readCommand] at h
  split at h
  · cases h
    assumption
  · split at h
    · cases h
      assumption
    · cases h

/-- What is read as a command has the account right before the last segment, a command for its
query, and is not the path of a row. -/
theorem read_eq_transaction {address : String} {account : Int64} {action : LedgerAction}
    (h : read address = .ok (.transaction account action)) :
    (∃ front text, segments (splitQuery address.toList).1 = front ++ [text, "transactions"] ∧
      Text.readInt64? text = some account) ∧
    String.ofList (splitQuery address.toList).2 = "command=" ++ action.command ∧
    ∀ table resource, segments (splitQuery address.toList).1 ≠ ["datatables", table, resource] := by
  rw [read] at h
  generalize splitQuery address.toList = parts at h ⊢
  obtain ⟨path, query⟩ := parts
  dsimp only at h ⊢
  split at h
  · rename_i table resource hrow
    rw [readDetail] at h
    split at h <;> cases h
  · rename_i hrow
    split at h
    · rename_i text front hnames
      rw [readTransaction] at h
      split at h
      · rename_i id hid
        obtain ⟨command, hcommand, h⟩ := map_eq_ok_iff.1 h
        cases h
        refine ⟨⟨front.reverse, text, ?_, hid⟩, readCommand_eq_ok hcommand, ?_⟩
        · simpa using congrArg List.reverse hnames
        · exact fun table resource heq => hrow table resource heq
      · cases h
    · cases h

theorem read_eq_detail {address table : String} {resource : Int64}
    (h : read address = .ok (.detail table resource)) :
    ∃ text, segments (splitQuery address.toList).1 = ["datatables", table, text] := by
  rw [read] at h
  generalize splitQuery address.toList = parts at h ⊢
  obtain ⟨path, query⟩ := parts
  dsimp only at h ⊢
  split at h
  · rename_i name text hrow
    rw [readDetail] at h
    split at h
    · cases h
      exact ⟨text, hrow⟩
    · cases h
  · split at h
    · rw [readTransaction] at h
      split at h
      · obtain ⟨command, -, h⟩ := map_eq_ok_iff.1 h
        cases h
      · cases h
    · cases h

/-! ## Base paths -/

/-- Behind a path that does not end in a slash no new segment begins. -/
theorem segments_append_of_ne {base ds : List Char} {c : Char} (hlast : base.getLast? = some c)
    (hc : c ≠ '/') (hds : '/' ∉ ds) :
    ∃ front tail, tail ≠ [] ∧ segments (base ++ ds) = front ++ [String.ofList (tail ++ ds)] := by
  by_cases hslash : '/' ∈ base
  · obtain ⟨as, bs, hreverse, has⟩ := List.eq_append_cons_of_mem (List.mem_reverse.2 hslash)
    have hbase : base = bs.reverse ++ '/' :: as.reverse := by
      rw [← List.reverse_reverse base, hreverse]
      simp
    have hne : as.reverse ≠ [] := by
      intro hnil
      rw [hbase, hnil, List.getLast?_concat] at hlast
      exact hc (Option.some.inj hlast).symm
    refine ⟨segments bs.reverse, as.reverse, hne, ?_⟩
    have htail : segments (as.reverse ++ ds) = [String.ofList (as.reverse ++ ds)] :=
      segments_singleton (by simp [hne]) (by simp [has, hds])
    rw [hbase, List.append_assoc, List.cons_append, segments_append, htail]
  · have hne : base ≠ [] := by
      rintro rfl
      cases hlast
    refine ⟨[], base, hne, ?_⟩
    rw [segments_singleton (by simp [hne]) (by simp [hslash, hds]), List.nil_append]

/-- A base path below which every account is read by its own number. -/
theorem base_of_read {base : List Char} (hne : base ≠ [])
    (h : ∀ account action, read (ofTransaction (String.ofList base) account action) =
      .ok (.transaction account action)) :
    base.getLast? = some '/' ∧ '?' ∉ base ∧ segments base ≠ ["datatables"] := by
  have hquery : '?' ∉ base := by
    intro hmem
    obtain ⟨front, back, hbase, hfront⟩ := List.eq_append_cons_of_mem hmem
    obtain ⟨-, hcommand, -⟩ := read_eq_transaction (h 0 .deposit)
    have hchars : (ofTransaction (String.ofList base) 0 .deposit).toList =
        front ++ '?' :: (back ++ (toString (0 : Int64)).toList ++
          "/transactions?command=deposit".toList) := by
      simp [ofTransaction, hbase, LedgerAction.command]
    rw [hchars, splitQuery_append hfront] at hcommand
    -- What stands behind the question mark of the base is no command, for it has a slash.
    have hslash : '/' ∈ ("command=" ++ LedgerAction.deposit.command).toList := by
      rw [← hcommand]
      simp
    exact absurd hslash (by decide)
  have hslash : base.getLast? = some '/' := by
    obtain ⟨c, hlast⟩ := Option.ne_none_iff_exists'.1 (mt List.getLast?_eq_none_iff.1 hne)
    by_cases hc : c = '/'
    · rw [hlast, hc]
    · obtain ⟨⟨front, text, hnames, hread⟩, -⟩ := read_eq_transaction (h (-1) .deposit)
      obtain ⟨first, tail, htail, hsegments⟩ :=
        segments_append_of_ne hlast hc
          (Text.not_mem_toString (-1 : Int64).toInt (by decide) (by decide))
      rw [splitQuery_ofTransaction hquery, segments_append, hsegments] at hnames
      have hword : segments "transactions".toList = ["transactions"] := by decide
      have htext : text = String.ofList (tail ++ (toString (-1 : Int64).toInt).toList) := by
        rw [hword, List.append_assoc] at hnames
        have hlists := (List.append_inj' hnames rfl).2
        simpa using hlists.symm
      obtain ⟨d, ds, rfl⟩ := List.exists_cons_of_ne_nil htail
      rw [htext, Text.readInt64?, String.toList_ofList, List.cons_append,
        Text.readSigned?_of_mem (List.mem_append_right ds (by decide))] at hread
      cases hread
  refine ⟨hslash, hquery, ?_⟩
  intro hsegments
  obtain ⟨-, -, hrow⟩ := read_eq_transaction (h 0 .deposit)
  rw [splitQuery_ofTransaction hquery,
    segments_ofTransaction (fun c hc => Option.some.inj (hc.symm.trans hslash)), hsegments] at hrow
  exact hrow _ _ rfl

/-! ## Tables -/

theorem not_mem_splitQuery (cs : List Char) : '?' ∉ (splitQuery cs).1 := by
  intro hmem
  have hbefore := List.mem_takeWhile_imp hmem
  simp at hbefore

theorem eq_of_segments_detail {table text : String} {filled : List Char} {n : Int}
    (hslash : '/' ∉ filled) (hquery : '?' ∉ filled)
    (h : segments (splitQuery ("datatables".toList ++
      '/' :: (filled ++ '/' :: (toString n).toList))).1 = ["datatables", table, text]) :
    filled = table.toList := by
  have hpath : '?' ∉ "datatables".toList ++ '/' :: (filled ++ '/' :: (toString n).toList) := by
    simp only [List.mem_append, List.mem_cons, not_or]
    exact ⟨by decide, by decide, hquery, by decide, Text.not_mem_toString _ (by decide) (by decide)⟩
  rw [splitQuery_of_not_mem hpath] at h
  by_cases hempty : filled = []
  · have hsegments : segments ("datatables".toList ++ '/' :: ([] ++ '/' :: (toString n).toList)) =
        ["datatables", toString n] := by
      rw [segments_append, segments_append, segments_toString]
      rfl
    rw [hempty, hsegments] at h
    simp at h
  · rw [segments_detail hempty hslash] at h
    have hsecond := (List.cons.inj (List.cons.inj h).2).1
    rw [← hsecond, String.toList_ofList]

/-- A table below which a row is read as one of that table. -/
theorem table_of_read {table : String} {resource : Int64}
    (h : read (Text.replaceAll resourcePlaceholder (toString resource) (ofDetail table)) =
      .ok (.detail table resource)) :
    table ≠ "" ∧ '/' ∉ table.toList ∧ '?' ∉ table.toList ∧
      Text.occursIn resourcePlaceholder.toList table.toList = false := by
  have hnumber : toString resource = toString resource.toInt := rfl
  obtain ⟨text, hnames⟩ := read_eq_detail h
  have hmem : table ∈ segments (splitQuery (Text.replaceAll resourcePlaceholder
      (toString resource) (ofDetail table)).toList).1 := by
    rw [hnames]
    simp
  obtain ⟨hne, hslash, hpath⟩ := mem_segments hmem
  have hquery : '?' ∉ table.toList := fun hmem => not_mem_splitQuery _ (hpath _ hmem)
  refine ⟨hne, hslash, hquery, ?_⟩
  rw [hnumber, toList_replaceAll_ofDetail] at hnames
  have hsame := eq_of_segments_detail (not_mem_filled (by decide) (by decide) hslash _)
    (not_mem_filled (by decide) (by decide) hquery _) hnames
  exact (Text.replaceFrom_eq_self_iff (Text.not_mem_toString _ (by decide) (by decide))).1 hsame

end Address

/-! ## Settings -/

namespace Settings

/-- Settings are accepted out of a draft that passes its checks. -/
theorem exists_check_of_parse {text : String} {s : Settings} (h : parse text = .ok s) :
    ∃ d : SettingsDraft, d.check = .ok s := by
  rw [parse] at h
  split at h
  · rw [ofToml] at h
    split at h
    · exact ⟨_, h⟩
    · cases h
  · cases h

theorem ledger_of_parse {text : String} {s : Settings} (h : parse text = .ok s) :
    s.ledger.relativeBase ≠ "" ∧ ∃ pattern, s.ledger.datePattern = .ok pattern := by
  obtain ⟨d, h⟩ := exists_check_of_parse h
  rw [SettingsDraft.check] at h
  split at h
  · cases h
  · split at h
    · cases h
    · rename_i hbase
      obtain ⟨pattern, hpattern, h⟩ := bind_eq_ok_iff.1 h
      obtain ⟨ibans, -, h⟩ := bind_eq_ok_iff.1 h
      cases h
      refine ⟨fun hempty => hbase ?_, pattern, hpattern⟩
      simp [hempty]

/-- Under settings that are accepted, every account is addressed by its own number and command and
every row by its own table and resource exactly if the base path ends a segment, has no query and is
not that of the tables, and the table is one segment without a placeholder. -/
theorem reads_iff_addressable {text : String} {s : Settings} (h : parse text = .ok s) :
    ((∀ account action,
        Address.read (Address.ofTransaction s.ledger.relativeBase account action) =
          .ok (.transaction account action)) ∧
      ∀ resource : Int64,
        Address.read (Text.replaceAll resourcePlaceholder (toString resource)
            (Address.ofDetail s.ledger.detailTable)) =
          .ok (.detail s.ledger.detailTable resource)) ↔
      s.ledger.Addressable := by
  constructor
  · rintro ⟨htransaction, hdetail⟩
    have hne : s.ledger.basePath.toList.dropWhile (· = '/') ≠ [] := by
      intro hnil
      exact (ledger_of_parse h).1 (by simp [LedgerSettings.relativeBase, hnil])
    obtain ⟨hslash, hquery, hsegments⟩ := Address.base_of_read hne htransaction
    obtain ⟨htable, htableSlash, htableQuery, hplaceholder⟩ := Address.table_of_read (hdetail 0)
    have hbase := List.takeWhile_append_dropWhile (p := (· = '/')) (l := s.ledger.basePath.toList)
    refine ⟨?_, ?_, ?_, htable, htableSlash, htableQuery, hplaceholder⟩
    · rw [← hbase, List.getLast?_append, hslash]
      rfl
    · rw [← hbase, List.mem_append, not_or]
      exact ⟨fun hmem => by simpa using List.mem_takeWhile_imp hmem, hquery⟩
    · rw [← Address.segments_dropWhile]
      exact hsegments
  · intro haddressable
    refine ⟨haddressable.read_transaction, fun resource => ?_⟩
    have hnumber : toString resource = toString resource.toInt := rfl
    rw [hnumber, Address.read_replaceAll_ofDetail haddressable.table_nonempty
      haddressable.table_slash haddressable.table_query haddressable.table_placeholder rfl,
      Address.readDetail, ← hnumber, Text.readInt64?_toString]

/-- A document with a base path that does not end in a slash. -/
def misaddressing : String :=
  "[ledger]\napi_base_path = \"savingsaccounts/1\"\n[tenants.t.payment_type_ids]\nk = 1\n"

/-- A document with nothing but the payment types of a tenant. -/
def plain : String := "[tenants.t.payment_type_ids]\nk = 1\n"

theorem reads_plain :
    ∃ s, parse plain = .ok s ∧ s.ledger.Addressable ∧
      (∀ account action,
        Address.read (Address.ofTransaction s.ledger.relativeBase account action) =
          .ok (.transaction account action)) ∧
      ∀ resource : Int64,
        Address.read (Text.replaceAll resourcePlaceholder (toString resource)
            (Address.ofDetail s.ledger.detailTable)) =
          .ok (.detail s.ledger.detailTable resource) := by
  have hparsed : (parse plain).toOption.any fun s => s.ledger = .standard := by decide +kernel
  obtain ⟨s, hs, hledger⟩ := (Option.any_eq_true _ _).1 hparsed
  rw [toOption_eq_some_iff] at hs
  have haddressable : s.ledger.Addressable := by
    rw [of_decide_eq_true hledger]
    exact LedgerSettings.addressable_standard
  exact ⟨s, hs, haddressable, (reads_iff_addressable hs).2 haddressable⟩

/-- Not all settings that are accepted address every account by its own number. -/
theorem not_reads_of_parse :
    ¬∀ text s, parse text = .ok s →
      (∀ account action,
        Address.read (Address.ofTransaction s.ledger.relativeBase account action) =
          .ok (.transaction account action)) ∧
      ∀ resource : Int64,
        Address.read (Text.replaceAll resourcePlaceholder (toString resource)
            (Address.ofDetail s.ledger.detailTable)) =
          .ok (.detail s.ledger.detailTable resource) := by
  intro hall
  have hparsed : (parse misaddressing).toOption.any fun s =>
      (Address.read (Address.ofTransaction s.ledger.relativeBase 11 .deposit)).toOption =
        some (.transaction 111 .deposit) := by
    decide +kernel
  obtain ⟨s, hs, hread⟩ := (Option.any_eq_true _ _).1 hparsed
  rw [toOption_eq_some_iff] at hs
  have hmistaken := of_decide_eq_true hread
  rw [(hall misaddressing s hs).1 11 .deposit] at hmistaken
  exact absurd hmistaken (by decide)

end Settings

end PaymentBooking
