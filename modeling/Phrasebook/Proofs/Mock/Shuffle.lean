import Phrasebook.Mock.Shuffle

/-!
A shuffled text has the characters of the text.

Whatever the key stream says, an index that is drawn lies in the part of the text that is still to
be shuffled. So each step swaps two entries that are there, and no character is lost or doubled.
-/

namespace Phrasebook.Mock

/-- The high half of a product of a word with `n` is below `n`, whether or not a word has to be
drawn again. -/
theorem Stream.index_lt {n : Nat} (hn : 0 < n) (tries : Nat) (s : Stream) :
    (s.index n tries).1 < n := by
  induction tries generalizing s with
  | zero => exact hn
  | succ tries ih =>
      have hhigh (w : UInt32) : w.toNat * n / wordCount < n := by
        apply Nat.div_lt_of_lt_mul
        exact Nat.mul_lt_mul_of_pos_right w.toNat_lt hn
      rw [Stream.index]
      dsimp only
      split
      · exact hhigh s.next.1
      · exact ih s.next.2

/-- An array is turned into another by swaps: from entry `i` down to the second, each with one that
is at or before it. -/
inductive Swaps : Nat → Array Char → Array Char → Prop
  | done (cs : Array Char) : Swaps 0 cs cs
  | swap {i j : Nat} {cs ds : Array Char} (hi : i + 1 < cs.size) (hj : j ≤ i + 1)
      (h : Swaps i (cs.swap (i + 1) j hi (Nat.lt_of_le_of_lt hj hi)) ds) : Swaps (i + 1) cs ds

theorem Swaps.perm {i : Nat} {cs ds : Array Char} (h : Swaps i cs ds) : ds.Perm cs := by
  induction h with
  | done cs => exact .refl cs
  | swap hi hj _ ih => exact ih.trans (Array.swap_perm hi (Nat.lt_of_le_of_lt hj hi))

theorem shuffleFrom_succ (i : Nat) (s : Stream) (cs : Array Char) :
    shuffleFrom (i + 1) s cs = shuffleFrom i (s.index (i + 2) 1024).2
      (cs.swapIfInBounds (i + 1) (s.index (i + 2) 1024).1) := by
  rw [shuffleFrom]

theorem swaps_shuffleFrom {i : Nat} {cs : Array Char} (h : i = 0 ∨ i < cs.size) (s : Stream) :
    Swaps i cs (shuffleFrom i s cs) := by
  induction i generalizing s cs with
  | zero => exact .done cs
  | succ i ih =>
      have hi : i + 1 < cs.size := h.resolve_left (Nat.succ_ne_zero i)
      have hj : (s.index (i + 2) 1024).1 ≤ i + 1 :=
        Nat.le_of_lt_succ (Stream.index_lt (Nat.succ_pos (i + 1)) 1024 s)
      refine .swap hi hj ?_
      rw [shuffleFrom_succ, Array.swapIfInBounds_def, dif_pos hi, dif_pos (Nat.lt_of_le_of_lt hj hi)]
      apply ih
      right
      rw [Array.size_swap]
      exact Nat.lt_of_succ_lt hi

/-- The placeholder of a text is the locale, a space and the characters of the text, each as often
as in the text. They are brought into their order by swaps inside the text. -/
theorem shuffled_perm (locale text : String) :
    ∃ chars, (shuffled locale text).toList = locale.toList ++ ' ' :: chars ∧
      chars.Perm text.toList ∧
      Swaps (text.toList.length - 1) text.toList.toArray chars.toArray := by
  have hplace : text.toList.length - 1 = 0 ∨
      text.toList.length - 1 < text.toList.toArray.size := by
    rw [List.size_toArray]
    omega
  have hswaps := swaps_shuffleFrom hplace (.ofSeed (hashBytes text.toUTF8.toList))
  refine ⟨(shuffle text).toList, ?_, ?_, ?_⟩
  · simp [shuffled, String.toList_append]
  · rw [shuffle, String.toList_ofList]
    exact hswaps.perm.toList
  · rw [shuffle, String.toList_ofList, Array.toArray_toList]
    exact hswaps

end Phrasebook.Mock
