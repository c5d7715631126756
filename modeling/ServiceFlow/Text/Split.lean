/-!
# Cutting text at a character

Model of the cuts that addresses and commands are read with, on lists of characters.

* `splitAll sep cs` is the list of maximal runs of `cs` without `sep`, in order: `n` separators give
  `n + 1` parts, of which any may be empty.
* `splitFirst? sep cs` is the pair of what stands before and after the first `sep`.
* `after? ps cs` is what remains of `cs` after the beginning `ps`.

Results:
* `joinWith_splitAll`: putting the separator back between the parts gives the text.
* `after?_eq_some`: the text is the beginning followed by what remains.
* `splitFirst?_eq_some`: the pair is the text cut at a separator that none precedes.
-/

namespace ServiceFlow.Text

/-! ## All cuts -/

/-- Adds a character to the first part. -/
def consPart (c : Char) : List (List Char) → List (List Char)
  | [] => [[c]]
  | p :: ps => (c :: p) :: ps

/-- The parts of a text between the occurrences of `sep`. -/
def splitAll (sep : Char) : List Char → List (List Char)
  | [] => [[]]
  | c :: cs => if c = sep then [] :: splitAll sep cs else consPart c (splitAll sep cs)

/-- The parts with `sep` between each two of them. -/
def joinWith (sep : Char) : List (List Char) → List Char
  | [] => []
  | [p] => p
  | p :: q :: ps => p ++ sep :: joinWith sep (q :: ps)

theorem splitAll_ne_nil (sep : Char) (cs : List Char) : splitAll sep cs ≠ [] := by
  cases cs with
  | nil => simp [splitAll]
  | cons c cs =>
    rw [splitAll]
    split
    · simp
    · cases h : splitAll sep cs <;> simp [consPart]

theorem joinWith_consPart (sep c : Char) {ps : List (List Char)} (h : ps ≠ []) :
    joinWith sep (consPart c ps) = c :: joinWith sep ps := by
  match ps, h with
  | [p], _ => rfl
  | p :: q :: ps, _ => rfl

/-- Nothing is lost in the cuts. -/
theorem joinWith_splitAll (sep : Char) (cs : List Char) : joinWith sep (splitAll sep cs) = cs := by
  induction cs with
  | nil => rfl
  | cons c cs ih =>
    rw [splitAll]
    split
    · next h =>
      subst h
      cases hs : splitAll c cs with
      | nil => exact absurd hs (splitAll_ne_nil c cs)
      | cons p ps => rw [hs] at ih; simp [joinWith, ih]
    · rw [joinWith_consPart sep c (splitAll_ne_nil sep cs), ih]

/-! ## The first cut -/

/-- What stands before and after the first `sep`, if there is one. -/
def splitFirst? (sep : Char) : List Char → Option (List Char × List Char)
  | [] => none
  | c :: cs =>
    if c = sep then some ([], cs)
    else (splitFirst? sep cs).map fun (a, b) => (c :: a, b)

theorem splitFirst?_eq_some {sep : Char} {cs a b : List Char} (h : splitFirst? sep cs = some (a, b)) :
    cs = a ++ sep :: b ∧ sep ∉ a := by
  induction cs generalizing a b with
  | nil => simp [splitFirst?] at h
  | cons c cs ih =>
    rw [splitFirst?] at h
    split at h
    · next hc => cases h; simp [hc]
    · next hc =>
      simp only [Option.map_eq_some_iff, Prod.mk.injEq, Prod.exists] at h
      obtain ⟨a', b', h', rfl, rfl⟩ := h
      obtain ⟨rfl, hn⟩ := ih h'
      simp [hn, Ne.symm hc]

/-! ## Beginnings -/

/-- What remains of a text after the beginning `ps`. -/
def after? : List Char → List Char → Option (List Char)
  | [], cs => some cs
  | _ :: _, [] => none
  | p :: ps, c :: cs => if p = c then after? ps cs else none

theorem after?_eq_some {ps cs r : List Char} : after? ps cs = some r ↔ cs = ps ++ r := by
  induction ps generalizing cs with
  | nil => simp [after?, eq_comm]
  | cons p ps ih =>
    cases cs with
    | nil => simp [after?]
    | cons c cs =>
      rw [after?]
      split
      · next h => simp [ih, h]
      · next h => simp [Ne.symm h]

/-! ## Joining strings -/

/-- The texts with `sep` between each two of them. -/
def join (sep : String) (texts : List String) : String := sep.intercalate texts

end ServiceFlow.Text
