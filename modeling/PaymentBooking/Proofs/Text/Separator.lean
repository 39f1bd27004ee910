import Mathlib.Data.List.Basic

/-! # Parts with a separator between them

What stands in front of the first separator of a text, and what stands behind the last one, can be
read off the text, whatever is on the other side. Parts without a separator in them are what is
between the separators of a text that has one behind each part.
-/

namespace PaymentBooking.Text

variable {α : Type} [DecidableEq α] {a : α} {front front' back back' : List α}

theorem eq_of_first_separator (hfront : a ∉ front) (hfront' : a ∉ front')
    (h : front ++ a :: back = front' ++ a :: back') : front = front' ∧ back = back' := by
  have hsplit := congrArg (List.splitOn a) h
  rw [List.splitOn_append_cons_self_of_not_mem hfront,
    List.splitOn_append_cons_self_of_not_mem hfront'] at hsplit
  obtain rfl := (List.cons.inj hsplit).1
  exact ⟨rfl, (List.cons.inj (List.append_cancel_left h)).2⟩

theorem eq_of_last_separator (hback : a ∉ back) (hback' : a ∉ back')
    (h : front ++ a :: back = front' ++ a :: back') : front = front' ∧ back = back' := by
  have hreverse : back.reverse ++ a :: front.reverse = back'.reverse ++ a :: front'.reverse := by
    simpa using congrArg List.reverse h
  obtain ⟨hback, hfront⟩ :=
    eq_of_first_separator (by simpa using hback) (by simpa using hback') hreverse
  exact ⟨List.reverse_injective hfront, List.reverse_injective hback⟩

theorem splitOn_flatMap_concat {parts : List (List α)} (h : ∀ part ∈ parts, a ∉ part) :
    (parts.flatMap fun part => part ++ [a]).splitOn a = parts ++ [[]] := by
  induction parts with
  | nil => rfl
  | cons part parts ih =>
    obtain ⟨hpart, hparts⟩ := List.forall_mem_cons.1 h
    rw [List.flatMap_cons, List.append_assoc, List.singleton_append,
      List.splitOn_append_cons_self_of_not_mem hpart, ih hparts, List.cons_append]

end PaymentBooking.Text
