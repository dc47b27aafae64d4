import Phrasebook.Slug.Basic

/-!
The splitting of a text into words.

The words hold the letters and digits of the text in order. A sign ends a word whatever stands
around it. So words of small letters or of digits, joined by a sign, are found again.
-/

namespace Phrasebook.Slug

theorem CharClass.parts_self {k : CharClass} (h : k ≠ .upper) (behind : Option CharClass) :
    k.parts k behind = false := by
  cases k with
  | upper => exact absurd rfl h
  | _ => rfl

/-- A sign behind two neighbours counts like nothing behind them. -/
theorem CharClass.parts_other (left right : CharClass) :
    left.parts right (some .other) = left.parts right none := by
  cases left <;> cases right <;> rfl

theorem words_cons_other {c : Char} (h : CharClass.of c = .other) (rest : List Char) :
    words (c :: rest) = words rest := by
  cases rest <;> simp only [words, h, if_true]

theorem words_cons_cons {c : Char} (hc : CharClass.of c ≠ .other) (d : Char) (more : List Char) :
    words (c :: d :: more) =
      if CharClass.of d = .other
          || (CharClass.of c).parts (CharClass.of d) (more.head?.map CharClass.of) then
        [c] :: words (d :: more)
      else lengthen c (words (d :: more)) := by
  rw [words, if_neg hc]

theorem exists_words_cons {c : Char} (hc : CharClass.of c ≠ .other) (rest : List Char) :
    ∃ v ws, words (c :: rest) = (c :: v) :: ws := by
  cases rest with
  | nil => exact ⟨[], [], by rw [words, if_neg hc]⟩
  | cons d more =>
      rw [words_cons_cons hc]
      split
      · exact ⟨[], _, rfl⟩
      · cases words (d :: more) with
        | nil => exact ⟨[], [], rfl⟩
        | cons v ws => exact ⟨v, ws, rfl⟩

theorem flatten_lengthen (c : Char) (ws : List (List Char)) :
    (lengthen c ws).flatten = c :: ws.flatten := by
  cases ws <;> rfl

/-- The words of a text hold its letters and digits in order, and nothing else. -/
theorem flatten_words (cs : List Char) :
    (words cs).flatten = cs.filter fun c => CharClass.of c ≠ .other := by
  fun_induction words cs with
  | case1 => rfl
  | case2 c rest hother ih => simp [ih, hother]
  | case3 c hother => simp [hother]
  | case4 c hother d more hparts ih =>
      rw [List.filter_cons_of_pos (by simpa using hother), List.flatten_cons, ih,
        List.singleton_append]
  | case5 c hother d more hparts ih =>
      rw [List.filter_cons_of_pos (by simpa using hother), flatten_lengthen, ih]

theorem mem_of_mem_words {cs w : List Char} (hw : w ∈ words cs) {c : Char} (hc : c ∈ w) :
    c ∈ cs ∧ CharClass.of c ≠ .other := by
  have hmem := List.mem_flatten_of_mem hw hc
  rw [flatten_words, List.mem_filter, decide_eq_true_eq] at hmem
  exact hmem

theorem class_ne_other_of_mem_words {cs w : List Char} (hw : w ∈ words cs) {c : Char}
    (hc : c ∈ w) : CharClass.of c ≠ .other :=
  (mem_of_mem_words hw hc).2

theorem lengthen_append (c : Char) {vs : List (List Char)} (h : vs ≠ []) (ws : List (List Char)) :
    lengthen c (vs ++ ws) = lengthen c vs ++ ws := by
  obtain ⟨v, vs, rfl⟩ := List.exists_cons_of_ne_nil h
  rfl

/-- A sign behind a text says no more than the end of the text. -/
theorem parts_append_other {sep : Char} (hsep : CharClass.of sep = .other)
    (left right : CharClass) (more y : List Char) :
    left.parts right ((more ++ sep :: y).head?.map CharClass.of) =
      left.parts right (more.head?.map CharClass.of) := by
  cases more with
  | nil => simp [hsep, CharClass.parts_other]
  | cons e more => rfl

/-- A sign ends a word, and the words on its two sides are found on their own. -/
theorem words_append_other {sep : Char} (hsep : CharClass.of sep = .other) (x y : List Char) :
    words (x ++ sep :: y) = words x ++ words y := by
  fun_induction words x with
  | case1 => exact words_cons_other hsep y
  | case2 c rest hother ih => rw [List.cons_append, words_cons_other hother, ih]
  | case3 c hother =>
      rw [List.singleton_append, words_cons_cons hother, if_pos (by simp [hsep]),
        words_cons_other hsep, List.singleton_append]
  | case4 c hother d more hparts ih =>
      rw [List.cons_append, List.cons_append, words_cons_cons hother, parts_append_other hsep,
        if_pos hparts, ← List.cons_append, ih, List.cons_append]
  | case5 c hother d more hparts ih =>
      have hd : CharClass.of d ≠ .other := by
        intro hd
        simp [hd] at hparts
      obtain ⟨v, ws, hwords⟩ := exists_words_cons hd more
      rw [List.cons_append, List.cons_append, words_cons_cons hother, parts_append_other hsep,
        if_neg hparts, ← List.cons_append, ih, lengthen_append c (by simp [hwords])]

theorem words_of_class {w : List Char} {k : CharClass} (hupper : k ≠ .upper) (hother : k ≠ .other)
    (hw : w ≠ []) (h : ∀ c ∈ w, CharClass.of c = k) : words w = [w] := by
  fun_induction words w with
  | case1 => exact absurd rfl hw
  | case2 c rest hc ih => exact absurd ((h c List.mem_cons_self).symm.trans hc) hother
  | case3 c hc => rfl
  | case4 c hc d more hparts ih =>
      rw [h c List.mem_cons_self, h d (by simp), CharClass.parts_self hupper] at hparts
      simp [hother] at hparts
  | case5 c hc d more hparts ih =>
      rw [ih (List.cons_ne_nil d more) fun c' hc' => h c' (List.mem_cons_of_mem c hc')]
      rfl

/-- Words that are not split any further are found again in what they are joined to. -/
theorem words_join {ws : List (List Char)} (h : ∀ w ∈ ws, words w = [w]) :
    words (join ws) = ws := by
  fun_induction join ws with
  | case1 => rfl
  | case2 w => exact h w List.mem_cons_self
  | case3 w ws hws ih =>
      rw [words_append_other (by decide), h w List.mem_cons_self,
        ih fun v hv => h v (List.mem_cons_of_mem w hv), List.singleton_append]

end Phrasebook.Slug
