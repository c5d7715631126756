import Mathlib.Data.List.DropRight
import ServiceFlow.Proofs.Text.Split
import ServiceFlow.Text.Blank

/-!
# White space at the end of a text

Of a text that does not begin with white space only the end is cut off, and of joined parts only the
end of the last one.

* `trimEnd` cuts off white space at the end; `trimEnd_eq_self_iff` says when there is none.
* `trimEnd_joinWith`: joined parts.
-/

namespace ServiceFlow.Text

variable {c : Char} {cs : List Char}

/-- The text without white space at its end. -/
def trimEnd (cs : List Char) : List Char := cs.rdropWhile isWhite

theorem trim_cons (hc : isWhite c = false) (cs : List Char) :
    trim (c :: cs) = trimEnd (c :: cs) := by
  have hfront : (c :: cs).dropWhile isWhite = c :: cs := List.dropWhile_cons_of_neg (by simp [hc])
  unfold trim trimEnd List.rdropWhile
  rw [hfront]

theorem trimEnd_eq_self_iff :
    trimEnd cs = cs ↔ ∀ c, cs.getLast? = some c → isWhite c = false := by
  rw [trimEnd, List.rdropWhile_eq_self_iff]
  constructor
  · intro h c hc
    have hne : cs ≠ [] := by
      rintro rfl
      cases hc
    have hlast := h hne
    rw [List.getLast?_eq_some_getLast hne] at hc
    rw [Option.some.inj hc] at hlast
    exact Bool.eq_false_iff.mpr hlast
  · intro h hne
    exact Bool.eq_false_iff.mp (h _ (List.getLast?_eq_some_getLast hne))

/-- Nothing before a character that is not white is cut off. -/
theorem trimEnd_append_cons (hc : isWhite c = false) (front cs : List Char) :
    trimEnd (front ++ c :: cs) = front ++ c :: trimEnd cs := by
  have hstop : (c :: front.reverse).dropWhile isWhite = c :: front.reverse :=
    List.dropWhile_cons_of_neg (by simp [hc])
  have hreverse : (front ++ c :: cs).reverse = cs.reverse ++ (c :: front.reverse) := by simp
  unfold trimEnd List.rdropWhile
  rw [hreverse, List.dropWhile_append]
  split
  · rename_i hall
    rw [hstop, List.isEmpty_iff.mp hall]
    simp
  · simp

theorem trimEnd_joinWith (hc : isWhite c = false) (parts : List (List Char)) (last : List Char) :
    trimEnd (joinWith c (parts ++ [last])) = joinWith c (parts ++ [trimEnd last]) := by
  induction parts with
  | nil => rfl
  | cons p parts ih =>
    have hne (q : List Char) : parts ++ [q] ≠ [] := by simp
    rw [List.cons_append, List.cons_append, joinWith_cons c p (hne last),
      joinWith_cons c p (hne (trimEnd last)), trimEnd_append_cons hc, ih]

end ServiceFlow.Text
