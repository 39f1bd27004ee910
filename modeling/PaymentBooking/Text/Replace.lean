/-! # Replacing every occurrence of a text

Occurrences are found from left to right and do not overlap: after one of them the search goes on
behind it. What is put in is not searched again.
-/

namespace PaymentBooking.Text

/-- Replaces the occurrences of `old`; `skip` counts the characters of an occurrence that are
still to be passed over. -/
def replaceFrom (old new : List Char) (skip : Nat) : List Char → List Char
  | [] => []
  | c :: cs =>
    match skip with
    | k + 1 => replaceFrom old new k cs
    | 0 =>
      if old.isPrefixOf (c :: cs) then new ++ replaceFrom old new (old.length - 1) cs
      else c :: replaceFrom old new 0 cs

def replaceAll (old new s : String) : String :=
  String.ofList (replaceFrom old.toList new.toList 0 s.toList)

def occursIn (old : List Char) : List Char → Bool
  | [] => old.isEmpty
  | c :: cs => old.isPrefixOf (c :: cs) || occursIn old cs

theorem replaceFrom_of_not_occursIn {old new cs : List Char} (h : occursIn old cs = false) :
    replaceFrom old new 0 cs = cs := by
  induction cs with
  | nil => rfl
  | cons c cs ih =>
    simp only [occursIn, Bool.or_eq_false_iff] at h
    simp [replaceFrom, h.1, ih h.2]

end PaymentBooking.Text
