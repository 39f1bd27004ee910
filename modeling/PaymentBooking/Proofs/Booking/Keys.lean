import PaymentBooking.Booking.Leg
import PaymentBooking.Proofs.Text.Separator

/-! # Keys of legs

The segments of a key have dots between them, and the case of a technical account is any text, with
dots or without. For a payment scheme without dots a key still tells its segments: the scheme and
the stage end at the first and the second dot, the action begins behind the last one, and what is
between them is the role. So legs that differ in a segment are configured apart, and so are
technical accounts of different cases.
-/

namespace PaymentBooking

/-! ## Segments without dots -/

theorem BookingStage.dot_not_mem_jobType (stage : BookingStage) : '.' ∉ stage.jobType.toList := by
  cases stage <;> decide

theorem BookingStage.jobType_inj {stage stage' : BookingStage} :
    stage.jobType = stage'.jobType ↔ stage = stage' := by
  cases stage <;> cases stage' <;> decide

theorem dot_not_mem_actionSegment (action : LedgerAction) (part : LegPart) :
    '.' ∉ (actionSegment action part).toList := by
  cases action <;> cases part <;> decide

theorem actionSegment_inj {action action' : LedgerAction} {part part' : LegPart} :
    actionSegment action part = actionSegment action' part' ↔ action = action' ∧ part = part' := by
  cases action <;> cases action' <;> cases part <;> cases part' <;> decide

/-! ## Reading a key -/

namespace OperationKey

/-- All segments but the role are without dots. -/
structure Undotted (k : OperationKey) : Prop where
  scheme : '.' ∉ k.scheme.toList
  stage : '.' ∉ k.stage.toList
  action : '.' ∉ k.action.toList

theorem toList_text (k : OperationKey) :
    k.text.toList = k.scheme.toList ++ '.' :: (k.stage.toList ++ '.' ::
      (k.role.toList ++ '.' :: k.action.toList)) := by
  simp [text]

/-- A key is known by its text, whatever its role is. -/
theorem Undotted.text_inj {k k' : OperationKey} (hk : k.Undotted) (hk' : k'.Undotted) :
    k.text = k'.text ↔ k = k' := by
  refine ⟨fun h => ?_, congrArg text⟩
  rw [← String.toList_inj, toList_text, toList_text] at h
  obtain ⟨hscheme, h⟩ := Text.eq_of_first_separator hk.scheme hk'.scheme h
  obtain ⟨hstage, h⟩ := Text.eq_of_first_separator hk.stage hk'.stage h
  obtain ⟨hrole, haction⟩ := Text.eq_of_last_separator hk.action hk'.action h
  cases k
  cases k'
  simp only [String.toList_inj] at hscheme hstage hrole haction
  subst hscheme hstage hrole haction
  rfl

end OperationKey

theorem Tenant.technicalKey_inj {scheme scheme' case case' : String}
    (hscheme : '.' ∉ scheme.toList) (hscheme' : '.' ∉ scheme'.toList) :
    technicalKey scheme case = technicalKey scheme' case' ↔ scheme = scheme' ∧ case = case' := by
  constructor
  · intro h
    have hchars : scheme.toList ++ '.' :: case.toList = scheme'.toList ++ '.' :: case'.toList := by
      simpa [technicalKey] using congrArg String.toList h
    simpa only [String.toList_inj] using Text.eq_of_first_separator hscheme hscheme' hchars
  · rintro ⟨rfl, rfl⟩
    rfl

namespace Leg

variable {scheme : String}

theorem undotted_key (l : Leg) (stage : BookingStage) (hscheme : '.' ∉ scheme.toList) :
    (l.key scheme stage).Undotted where
  scheme := hscheme
  stage := stage.configured.dot_not_mem_jobType
  action := dot_not_mem_actionSegment l.action l.part

/-- For payment schemes without dots, two legs share a key only if the schemes, the stages that they
are configured under, the segments of their roles, their actions and their parts are the same; and
two technical accounts do only if the schemes and the cases are. -/
theorem key_text_eq_iff {scheme' : String} (hscheme : '.' ∉ scheme.toList)
    (hscheme' : '.' ∉ scheme'.toList) :
    (∀ (l l' : Leg) (stage stage' : BookingStage),
      (l.key scheme stage).text = (l'.key scheme' stage').text ↔
        scheme = scheme' ∧ stage.configured = stage'.configured ∧
          l.role.segment = l'.role.segment ∧ l.action = l'.action ∧ l.part = l'.part) ∧
    ∀ case case', Tenant.technicalKey scheme case = Tenant.technicalKey scheme' case' ↔
      scheme = scheme' ∧ case = case' := by
  refine ⟨fun l l' stage stage' => ?_, fun case case' => Tenant.technicalKey_inj hscheme hscheme'⟩
  rw [(l.undotted_key stage hscheme).text_inj (l'.undotted_key stage' hscheme'), key, key,
    OperationKey.mk.injEq, BookingStage.jobType_inj, actionSegment_inj]

/-- A case may hold dots and may even look like the end of a key. -/
theorem key_text_ne_dotted :
    ('.' ∉ "S".toList ∧ '.' ∉ "T".toList) ∧
      (∃ l l' : Leg, l.role = .technical ".WithdrawTransactionAmount" ∧ l'.role = .technical "" ∧
        (l.key "S" .technicalCredit).text ≠ (l'.key "S" .technicalCredit).text) ∧
      Tenant.technicalKey "S" ".a" ≠ Tenant.technicalKey "T" "a" := by
  have hS : '.' ∉ "S".toList := by decide
  have hT : '.' ∉ "T".toList := by decide
  have one : Amount := ⟨⟨false, 1, 0, by decide, by decide⟩, by decide⟩
  refine ⟨⟨hS, hT⟩, ⟨⟨7, .technical ".WithdrawTransactionAmount", .withdrawal, .amount, one, none⟩,
    ⟨7, .technical "", .withdrawal, .amount, one, none⟩, rfl, rfl, fun h => ?_⟩, fun h => ?_⟩
  · have hrole := ((key_text_eq_iff hS hS).1 _ _ _ _).1 h
    simp [AccountRole.segment] at hrole
  · have hcase := ((key_text_eq_iff hS hT).2 _ _).1 h
    exact absurd hcase.2 (by decide)

end Leg

end PaymentBooking
