import PaymentBooking.Ledger.Entry
import PaymentBooking.Proofs.Decimal.Text
import PaymentBooking.Proofs.Json.Object
import PaymentBooking.Proofs.Reading.Declaration

/-! # Written money is read back

Money is written as a text with all its digits. So an amount is read back as it was, by whatever
reads it, and a fee as well, but for the sign that a fee of zero may carry. The readers of amounts,
of fees and of the ledger part only at zero: what is a fee is an amount exactly if there is
something to be charged for it, and it is the same amount to the ledger.
-/

namespace PaymentBooking

def Decimal.toJson (d : Decimal) : Json := .text d.text

theorem Decimal.parse?_toJson (d : Decimal) : Json.parse? d.toJson.print = some d.toJson :=
  Json.parse?_print (Json.isReadable_text _)

theorem Fee.chargeable_eq_some_iff {f : Fee} {a : Amount} :
    f.chargeable = some a ↔ f.value = a.value := by
  rw [chargeable]
  split
  · rw [Option.some.injEq]
    constructor
    · rintro rfl
      rfl
    · intro h
      cases a
      cases h
      rfl
  · rename_i hf
    constructor
    · intro h
      cases h
    · intro h
      rw [h] at hf
      exact absurd a.positive hf

namespace Reading

variable {v : Json} {a : Amount} {f : Fee}

theorem decimal?_toJson (d : Decimal) : decimal? d.toJson = Decimal.read? d.text := rfl

theorem amount_toJson (a : Amount) : amount a.value.toJson = .ok a := by
  rw [amount_eq_ok_iff, decimal?_toJson]
  exact Decimal.read?_text_of_isPositive a.positive

theorem exists_fee_toJson (f : Fee) :
    ∃ g, fee f.value.toJson = .ok g ∧ g.value.coefficient = f.value.coefficient ∧
      g.value.scale = f.value.scale ∧ (f.value.negative = false → g = f) := by
  obtain ⟨e, hread, hcoefficient, hscale⟩ := f.value.exists_read?_text
  have hnonnegative : e.isNegative = false := by
    rw [Decimal.isNegative, hcoefficient]
    exact f.nonnegative
  rw [← decimal?_toJson] at hread
  refine ⟨⟨e, hnonnegative⟩, fee_eq_ok_iff.2 hread, hcoefficient, hscale, fun hsign => ?_⟩
  -- Without a sign the fee is read back, and so it is what has been read.
  have hsame : decimal? f.value.toJson = some f.value :=
    Decimal.read?_text fun h => absurd (hsign.symm.trans h) (by decide)
  cases f
  cases Option.some.inj (hread.symm.trans hsame)
  rfl

/-- What is read as a fee is read as the amount that is charged for it. -/
theorem chargeable_eq_some_iff (h : fee v = .ok f) : f.chargeable = some a ↔ amount v = .ok a := by
  rw [Fee.chargeable_eq_some_iff, amount_eq_ok_iff, fee_eq_ok_iff.1 h, Option.some.injEq]

end Reading

theorem Entry.readAmount_eq_ok_iff {body v : Json} {a : Amount}
    (h : body.member? "transactionAmount" = some v) :
    readAmount body = .ok a ↔ Reading.amount v = .ok a := by
  rw [Reading.amount_eq_ok_iff, readAmount, h, Option.bind_some]
  cases Reading.decimal? v with
  | none => simp
  | some d => simp [mapError_eq_ok_iff, Amount.ofDecimal_eq_ok_iff]

/-- The JSON text of an amount is read as this amount, and as its decimal; that of a fee is read as
a fee of the same coefficient and scale, and as its decimal. Of a value that is read as a fee an
amount is charged exactly if the value is read as that amount, digit for digit the fee. And whatever
value a request has for its amount, the ledger takes it for an amount exactly if it is read as that
amount. -/
theorem money_read_back :
    (∀ a : Amount, ∃ v, Json.parse? a.value.toJson.print = some v ∧ Reading.amount v = .ok a ∧
      Reading.decimal v = .ok a.value) ∧
    (∀ f : Fee, ∃ v g, Json.parse? f.value.toJson.print = some v ∧ Reading.fee v = .ok g ∧
      Reading.decimal v = .ok g.value ∧ g.value.coefficient = f.value.coefficient ∧
      g.value.scale = f.value.scale ∧ (f.value.negative = false → g = f)) ∧
    (∀ v f, Reading.fee v = .ok f → ∀ a, (f.chargeable = some a ↔ Reading.amount v = .ok a) ∧
      (f.chargeable = some a → a.value = f.value)) ∧
    ∀ body v, body.member? "transactionAmount" = some v → ∀ a,
      Entry.readAmount body = .ok a ↔ Reading.amount v = .ok a := by
  refine ⟨fun a => ?_, fun f => ?_, fun v f hf a => ?_, fun body v h a => ?_⟩
  · have hamount := Reading.amount_toJson a
    exact ⟨_, a.value.parse?_toJson, hamount,
      Reading.decimal_eq_ok_iff.2 (Reading.amount_eq_ok_iff.1 hamount)⟩
  · obtain ⟨g, hfee, hsame⟩ := Reading.exists_fee_toJson f
    exact ⟨_, g, f.value.parse?_toJson, hfee,
      Reading.decimal_eq_ok_iff.2 (Reading.fee_eq_ok_iff.1 hfee), hsame⟩
  · exact ⟨Reading.chargeable_eq_some_iff hf, fun h => (Fee.chargeable_eq_some_iff.1 h).symm⟩
  · exact Entry.readAmount_eq_ok_iff h

/-- A fee of 2.50 is charged, and to the ledger it is the amount that is charged. -/
theorem money_read_back_charging :
    ∃ f a, Reading.fee (.text "2.50") = .ok f ∧ f.chargeable = some a ∧
      Entry.readAmount (.object [("transactionAmount", .text "2.50")]) = .ok a ∧
      a.value.coefficient = 250 ∧ a.value.scale = 2 := by
  let f : Fee := ⟨⟨false, 250, 2, by decide, by decide⟩, by decide⟩
  let a : Amount := ⟨f.value, by decide⟩
  have hfee : Reading.fee (.text "2.50") = .ok f := by decide +kernel
  have hmember : (Json.object [("transactionAmount", .text "2.50")]).member? "transactionAmount" =
      some (.text "2.50") := rfl
  obtain ⟨-, -, hfees, hledger⟩ := money_read_back
  have hcharged : f.chargeable = some a := rfl
  have hamount := (hfees _ f hfee a).1.1 hcharged
  exact ⟨f, a, hfee, hcharged, (hledger _ _ hmember a).2 hamount, rfl, rfl⟩

end PaymentBooking
