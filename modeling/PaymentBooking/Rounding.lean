/-! # Powers and quotients of whole numbers

Powers are the built-in ones, also where a library brings others along. A quotient is rounded to the
nearest whole number and a half goes to the even neighbour.
-/

namespace PaymentBooking

attribute [scoped instance (2000)] instPowNat

/-- The whole number nearest to `n / d`, the even one of two that are equally near. -/
def divEven (n d : Nat) : Nat :=
  let q := n / d
  let r := n % d
  if 2 * r < d then q
  else if d < 2 * r then q + 1
  else if q % 2 = 0 then q else q + 1

theorem divEven_eq_or (n d : Nat) : divEven n d = n / d ∨ divEven n d = n / d + 1 := by
  simp only [divEven]
  split
  · exact .inl rfl
  · split
    · exact .inr rfl
    · split <;> simp

theorem divEven_mul_right (q : Nat) {d : Nat} (h : 0 < d) : divEven (q * d) d = q := by
  simp [divEven, Nat.mul_div_cancel q h, h]

theorem divEven_one (n : Nat) : divEven n 1 = n := by
  simpa using divEven_mul_right n Nat.one_pos

end PaymentBooking
