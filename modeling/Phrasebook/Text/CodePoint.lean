/-!
Sets of code points written as tables.

A table is a list of stretches in increasing order. A stretch holds every `step`-th code point
from its first to its last, so that alternating upper and lower case letters take one row.
-/

namespace Phrasebook.Text

/-- The code points `first`, `first + step`, … up to `last`. -/
structure Stretch where
  first : Nat
  last : Nat
  step : Nat
deriving DecidableEq, Repr

/-- Whether the stretch holds the code point `n`. -/
def Stretch.holds (s : Stretch) (n : Nat) : Bool :=
  s.first ≤ n && n ≤ s.last && (n - s.first) % s.step == 0

/-- Whether some stretch of an increasing table holds the code point `n`. -/
def inTable (n : Nat) : List Stretch → Bool
  | [] => false
  | s :: rest => if n < s.first then false else s.holds n || inTable n rest

/-- The image of `n` in an increasing table of stretches with the image of their first member. -/
def imageInTable? (n : Nat) : List (Stretch × Nat) → Option Nat
  | [] => none
  | (s, image) :: rest =>
      if n < s.first then none
      else if s.holds n then some (image + (n - s.first))
      else imageInTable? n rest

/-- What the search finds is held by a stretch of the table. -/
theorem exists_holds_of_inTable {n : Nat} {table : List Stretch} (h : inTable n table = true) :
    ∃ s ∈ table, s.holds n = true := by
  induction table with
  | nil => simp [inTable] at h
  | cons s rest ih =>
    rw [inTable] at h
    split at h
    · simp at h
    · rw [Bool.or_eq_true] at h
      rcases h with hs | hr
      · exact ⟨s, by simp, hs⟩
      · obtain ⟨t, ht, hn⟩ := ih hr
        exact ⟨t, by simp [ht], hn⟩

end Phrasebook.Text
