import PaymentBooking.Proofs.Booking.Resolution

/-! # The columns of the details

Every text that a detail shows comes from a variable of the job, from a field of one of its messages
or from the tables of its tenant. What is not there is left out. All details of a booking show the
same texts, but for the code and the purpose of their own movements.
-/

namespace PaymentBooking

/-- What the body of a request shows under a name. -/
def BatchItem.column? (i : BatchItem) (name : String) : Option Json :=
  (Json.parse? i.body).bind (Json.member? name)

/-- Where a stage takes the texts of its statement from: the variables of the job, and the first
transaction of each message that the stage refers to. -/
inductive BookingStage.Sources (vars : Variables) : BookingStage → Statement → Prop
  /-- The counterparty of the credit is not shown. -/
  | technicalCredit {id raw : String} {node : Json}
      (hid : vars.text? "internalCorrelationId" = some id)
      (hraw : vars.text? "originalPacs008" = some raw)
      (hnode : Message.transaction .pacs008 raw = .ok node) :
      Sources vars .technicalCredit
        ⟨id, vars.text? "transactionGroupId", (Message.entryOf .pacs008 none node).payload.print,
          ⟨none, none, none⟩⟩
  /-- The IBAN of the job counts if the message has none. -/
  | conversionCredit {stage : BookingStage} {id raw : String} {node : Json}
      (hstage : stage ∈ [.conversionCredit, .conversionRecall])
      (hid : vars.text? "internalCorrelationId" = some id)
      (hraw : vars.text? "originalPacs008" = some raw)
      (hnode : Message.transaction .pacs008 raw = .ok node) :
      Sources vars stage
        ⟨id, vars.text? "transactionGroupId",
          (Message.entryOf .pacs008 (some .credit) node).payload.print,
          ⟨Message.textAt? node ["CdtrAcct", "Id", "IBAN"] <|> vars.text? "creditorIban",
            Message.textAt? node ["Dbtr", "Nm"], Message.textAt? node ["RmtInf", "Ustrd"]⟩⟩
  /-- The document is the entry of the original credit, and is empty if that is not given; the
  counterparty is that of the return. -/
  | conversionReturn {id raw document : String} {node : Json}
      (hid : vars.text? "internalCorrelationId" = some id)
      (hraw : vars.text? "pacs004" = some raw)
      (hnode : Message.transaction .pacs004 raw = .ok node)
      (hdocument : (vars.text? "originalPacs008" = none ∧ document = "\x7b\x7d") ∨
        ∃ original credit, vars.text? "originalPacs008" = some original ∧
          Message.transaction .pacs008 original = .ok credit ∧
          document = (Message.entryOf .pacs008 (some .credit) credit).payload.print) :
      Sources vars .conversionReturn
        ⟨id, vars.text? "transactionGroupId", document,
          ⟨Message.textAt? node ["OrgnlTxRef", "DbtrAcct", "Id", "IBAN"] <|>
              vars.text? "creditorIban",
            Message.textAt? node ["OrgnlTxRef", "Cdtr", "Nm"],
            Message.textAt? node ["OrgnlTxRef", "RmtInf", "Ustrd"]⟩⟩
  | conversionDebit {id raw : String} {node : Json}
      (hid : vars.text? "internalCorrelationId" = some id)
      (hraw : vars.text? "originalPain001" = some raw)
      (hnode : Message.transaction .pain001 raw = .ok node) :
      Sources vars .conversionDebit
        ⟨id, vars.text? "transactionGroupId", (Message.entryOf .pain001 none node).payload.print,
          ⟨Message.textAt? node ["CdtrAcct", "Id", "IBAN"], Message.textAt? node ["Cdtr", "Nm"],
            Message.textAt? node ["RmtInf", "Ustrd"]⟩⟩
  /-- The IBAN of the message counts if the job has none. -/
  | revert {stage : BookingStage} {id raw : String} {node : Json}
      (hstage : stage ∈ [.revert, .revertWithoutFee])
      (hid : vars.text? "internalCorrelationId" = some id)
      (hraw : vars.text? "originalPain001" = some raw)
      (hnode : Message.transaction .pain001 raw = .ok node) :
      Sources vars stage
        ⟨id, vars.text? "transactionGroupId", (Message.entryOf .pain001 none node).payload.print,
          ⟨vars.text? "debtorIban" <|> Message.textAt? node ["CdtrAcct", "Id", "IBAN"],
            Message.textAt? node ["Cdtr", "Nm"], Message.textAt? node ["RmtInf", "Ustrd"]⟩⟩
  /-- A correlation id that is missing is that of the cancelled payment, and a group that is missing
  is the correlation id. -/
  | disposalDeposit {id raw : String} {node : Json}
      (hid : vars.text? "internalCorrelationId" = some id ∨
        vars.text? "internalCorrelationId" = none ∧ ∃ reference,
          CancellationReference.ofMessage raw = .ok reference ∧ id = reference.correlationId)
      (hraw : vars.text? "camt056" = some raw)
      (hnode : Message.transaction .camt056 raw = .ok node) :
      Sources vars .disposalDeposit
        ⟨id, some ((vars.text? "transactionGroupId").getD id),
          (Message.entryOf .camt056 none node).payload.print,
          ⟨vars.text? "debtorIban" <|>
              Message.textAt? node ["OrgnlTxRef", "DbtrAcct", "Id", "IBAN"],
            Message.textAt? node ["OrgnlTxRef", "Dbtr", "Nm"],
            Message.textAt? node ["OrgnlTxRef", "RmtInf", "Ustrd"]⟩⟩

def Statement.columnNames : List String :=
  ["internal_correlation_id", "structured_transaction_details", "partner_account_iban",
    "payment_type_code", "transaction_group_id", "partner_name", "remittance_information",
    "category_purpose_code"]

/-- The detail of a movement: the texts of the statement that there are, the code of the movement's
own key and its purpose, and nothing else. -/
structure Movement.IsRow (codes : Option (Dict String String)) (s : Statement) (m : Movement)
    (i : BatchItem) : Prop where
  correlationId : i.column? "internal_correlation_id" = some (.text s.correlationId)
  document : i.column? "structured_transaction_details" = some (.text s.document)
  iban : i.column? "partner_account_iban" = s.party.iban.map .text
  code : i.column? "payment_type_code" =
    (codes.bind fun codes => codes.find? m.key).map .text
  groupId : i.column? "transaction_group_id" = s.groupId.map .text
  name : i.column? "partner_name" = s.party.name.map .text
  remittance : i.column? "remittance_information" = s.party.remittance.map .text
  purpose : i.column? "category_purpose_code" = m.purpose.map .text
  others : ∀ column ∉ Statement.columnNames, i.column? column = none

/-! ## Statements -/

namespace Message

theorem entry_eq_ok_iff {kind : MessageKind} {raw : String} {direction : Option Direction}
    {entry : StatementEntry} :
    Message.entry kind raw direction = .ok entry ↔
      ∃ node, transaction kind raw = .ok node ∧ entryOf kind direction node = entry := map_eq_ok_iff

end Message

open Reading.RecordReader

/-- A statement takes its texts from where the request and its messages have them. -/
theorem BookingStage.Describes.sources {vars : Variables} {stage : BookingStage} {s : Statement}
    (h : stage.Describes vars s) : stage.Sources vars s := by
  cases h with
  | technicalCredit hread hid hentry =>
    have hr := TechnicalCreditRequest.read_eq_ok_iff.1 hread
    obtain ⟨node, hnode, rfl⟩ := Message.entry_eq_ok_iff.1 hentry
    rw [← text?_of_build_optional hr.context.groupId]
    exact .technicalCredit ((text?_of_build_optional hr.context.correlationId).trans hid)
      (build_required_text_eq_ok_iff.1 hr.pacs008) hnode
  | conversionCredit hstage hread hid hraw hentry =>
    have hr := ConversionCreditRequest.read_eq_ok_iff.1 hread
    obtain ⟨node, hnode, rfl⟩ := Message.entry_eq_ok_iff.1 hentry
    rw [← text?_of_build_optional hr.context.groupId, ← text?_of_build_optional hr.creditorIban]
    exact .conversionCredit hstage ((text?_of_build_optional hr.context.correlationId).trans hid)
      ((text?_of_build_optional hr.pacs008).trans hraw) hnode
  | conversionReturn hread hid hraw hreturned hdocument =>
    have hr := ConversionCreditRequest.read_eq_ok_iff.1 hread
    obtain ⟨node, hnode, rfl⟩ := Message.entry_eq_ok_iff.1 hreturned
    rw [← text?_of_build_optional hr.context.groupId, ← text?_of_build_optional hr.creditorIban]
    refine .conversionReturn ((text?_of_build_optional hr.context.correlationId).trans hid)
      ((text?_of_build_optional hr.pacs004).trans hraw) hnode ?_
    rw [text?_of_build_optional hr.pacs008]
    rcases hdocument with ⟨hnone, rfl⟩ | ⟨original, entry, horiginal, hentry, rfl⟩
    · exact .inl ⟨hnone, by decide⟩
    · obtain ⟨credit, hcredit, rfl⟩ := Message.entry_eq_ok_iff.1 hentry
      exact .inr ⟨original, credit, horiginal, hcredit, rfl⟩
  | conversionDebit hread hid hentry =>
    have hr := ConversionDebitRequest.read_eq_ok_iff.1 hread
    obtain ⟨node, hnode, rfl⟩ := Message.entry_eq_ok_iff.1 hentry
    rw [← text?_of_build_optional hr.context.groupId]
    exact .conversionDebit ((text?_of_build_optional hr.context.correlationId).trans hid)
      (build_required_text_eq_ok_iff.1 hr.pain001) hnode
  | revert hstage hread hid hentry =>
    have hr := RevertRequest.read_eq_ok_iff.1 hread
    obtain ⟨node, hnode, rfl⟩ := Message.entry_eq_ok_iff.1 hentry
    rw [← text?_of_build_optional hr.context.groupId, ← text?_of_build_optional hr.debtorIban]
    exact .revert hstage ((text?_of_build_optional hr.context.correlationId).trans hid)
      (build_required_text_eq_ok_iff.1 hr.pain001) hnode
  | disposalDeposit hread hid hentry =>
    have hr := DisposalDepositRequest.read_eq_ok_iff.1 hread
    obtain ⟨node, hnode, rfl⟩ := Message.entry_eq_ok_iff.1 hentry
    rw [← text?_of_build_optional hr.context.groupId, ← text?_of_build_optional hr.debtorIban]
    rw [← text?_of_build_optional hr.context.correlationId] at hid
    exact .disposalDeposit hid (build_required_text_eq_ok_iff.1 hr.camt056) hnode

/-! ## Rows -/

section Rows

variable {settings : LedgerSettings} {statement : Statement} {codes : Option (Dict String String)}
  {scheme : String} {stage : BookingStage}

namespace Posting

theorem column?_detailItem {q : Posting} {name : String} (value : Option String)
    (hcolumn : ∀ t, (name, t) ∈ statement.columns q ↔ value = some t) :
    (q.detailItem settings statement).column? name = value.map .text := by
  obtain ⟨body, hparse, hbody⟩ := statement.parse?_row q
  have hparsed : Json.parse? (q.detailItem settings statement).body = some body := hparse
  rw [BatchItem.column?, hparsed]
  exact Statement.member?_of_row (hbody name) hcolumn

theorem isRow_detailItem {q : Posting}
    (hcode : q.code = codes.bind fun codes => codes.find? (q.leg.key scheme stage).text) :
    (q.leg.movement scheme stage).IsRow codes statement (q.detailItem settings statement) where
  correlationId := column?_detailItem (some statement.correlationId)
    (by simp [Statement.columns, eq_comm])
  document := column?_detailItem (some statement.document)
    (by simp [Statement.columns, eq_comm])
  iban := column?_detailItem _ (by simp [Statement.columns])
  code := by
    rw [Leg.movement, ← hcode]
    exact column?_detailItem _ (by simp [Statement.columns])
  groupId := column?_detailItem _ (by simp [Statement.columns])
  name := column?_detailItem _ (by simp [Statement.columns])
  remittance := column?_detailItem _ (by simp [Statement.columns])
  purpose := column?_detailItem _ (by simp [Statement.columns, Leg.movement])
  others column hcolumn := by
    simp only [Statement.columnNames, List.mem_cons, List.not_mem_nil, or_false, not_or] at hcolumn
    apply column?_detailItem none
    simp [Statement.columns, hcolumn, @eq_comm _ _ column]

end Posting

namespace Movement.IsRow

variable {m m' : Movement} {i j : BatchItem} {column : String}

/-- Only the code and the purpose of a row are those of its movement. -/
theorem column?_eq (h : m.IsRow codes statement i) (h' : m'.IsRow codes statement j)
    (hcolumn : column ∉ ["payment_type_code", "category_purpose_code"]) :
    i.column? column = j.column? column := by
  -- A column is one of the eight, or else neither row shows it.
  by_cases hshown : column ∈ Statement.columnNames
  · simp only [Statement.columnNames, List.mem_cons, List.not_mem_nil, or_false, not_or]
      at hshown hcolumn
    rcases hshown with rfl | rfl | rfl | rfl | rfl | rfl | rfl | rfl
    · rw [h.correlationId, h'.correlationId]
    · rw [h.document, h'.document]
    · rw [h.iban, h'.iban]
    · exact absurd rfl hcolumn.1
    · rw [h.groupId, h'.groupId]
    · rw [h.name, h'.name]
    · rw [h.remittance, h'.remittance]
    · exact absurd rfl hcolumn.2
  · rw [h.others column hshown, h'.others column hshown]

theorem column?_ne_null (h : m.IsRow codes statement i) : i.column? column ≠ some .null := by
  have htext : ∀ value : Option String, value.map Json.text ≠ some .null := by
    rintro (_ | value) <;> simp
  by_cases hshown : column ∈ Statement.columnNames
  · simp only [Statement.columnNames, List.mem_cons, List.not_mem_nil, or_false] at hshown
    rcases hshown with rfl | rfl | rfl | rfl | rfl | rfl | rfl | rfl
    · exact h.correlationId ▸ htext (some _)
    · exact h.document ▸ htext (some _)
    · exact h.iban ▸ htext _
    · exact h.code ▸ htext _
    · exact h.groupId ▸ htext _
    · exact h.name ▸ htext _
    · exact h.remittance ▸ htext _
    · exact h.purpose ▸ htext _
  · simp [h.others column hshown]

end Movement.IsRow

end Rows

theorem Plan.filter_dependent (plan : Plan) (settings : LedgerSettings) :
    (plan.batch settings).items.filter BatchItem.dependent =
      plan.postings.map (Posting.detailItem settings plan.outline.statement) := by
  rw [batch, List.filter_flatMap, List.map_eq_flatMap]
  rfl

/-- The details of a plan show the texts of one statement, each with the code and the purpose of its
own movement, in the order of the movements. -/
theorem BookingStage.columns_of_plan {stage : BookingStage} {env : Environment} {vars : Variables}
    {plan : Plan} (h : stage.plan env vars = .ok plan) :
    ∃ context movements statement,
      stage.Moves env.directory vars context movements ∧ stage.Sources vars statement ∧
      List.Forall₂ (Movement.IsRow (env.directory.codes.find? context.tenant) statement) movements
        ((plan.batch env.settings).items.filter BatchItem.dependent) ∧
      (∀ i ∈ (plan.batch env.settings).items.filter BatchItem.dependent,
        ∀ j ∈ (plan.batch env.settings).items.filter BatchItem.dependent,
        ∀ column ∉ ["payment_type_code", "category_purpose_code"],
          i.column? column = j.column? column) ∧
      ∀ i ∈ (plan.batch env.settings).items.filter BatchItem.dependent,
        ∀ column, i.column? column ≠ some .null := by
  obtain ⟨o, houtline, ho⟩ := bind_eq_ok_iff.1 h
  obtain ⟨context, htenant, hmoves⟩ := moves_of_outline houtline
  have hcode := Outline.code_of_plan ho
  obtain ⟨rfl, hlegs, -⟩ := Outline.legs_of_plan ho
  have hrow : ∀ q ∈ plan.postings,
      (q.leg.movement plan.outline.scheme plan.outline.stage).IsRow
        (env.directory.codes.find? context.tenant) plan.outline.statement
        (q.detailItem env.settings plan.outline.statement) := by
    intro q hq
    apply Posting.isRow_detailItem
    rw [hcode q hq, Tenant.code?, TenantDirectory.codes_of_resolve htenant]
  rw [hlegs, List.map_map] at hmoves
  rw [plan.filter_dependent]
  refine ⟨context, _, _, hmoves, (describes_of_outline houtline).sources, ?_, ?_, ?_⟩
  · rw [List.forall₂_map_left_iff, List.forall₂_map_right_iff, List.forall₂_same]
    exact hrow
  · simp only [List.forall_mem_map]
    exact fun q hq q' hq' column => (hrow q hq).column?_eq (hrow q' hq')
  · simp only [List.forall_mem_map]
    exact fun q hq column => (hrow q hq).column?_ne_null

theorem BookingStage.columns_cancelling :
    ∃ plan context movements statement,
      BookingStage.disposalDeposit.plan .reverting .cancelling = .ok plan ∧
      BookingStage.disposalDeposit.Moves Environment.reverting.directory .cancelling context
        movements ∧
      BookingStage.disposalDeposit.Sources .cancelling statement ∧
      List.Forall₂ (Movement.IsRow (Environment.reverting.directory.codes.find? context.tenant)
          statement) movements
        ((plan.batch Environment.reverting.settings).items.filter BatchItem.dependent) := by
  obtain ⟨plan, hplan, -⟩ := plan_cancelling
  obtain ⟨context, movements, statement, hmoves, hsources, hrows, -⟩ := columns_of_plan hplan
  exact ⟨plan, context, movements, statement, hplan, hmoves, hsources, hrows⟩

end PaymentBooking
