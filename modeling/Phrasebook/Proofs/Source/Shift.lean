import Phrasebook.Proofs.Source.Splice

/-!
Edits of a text with one more character in front of it.

If all places are counted with that character, the same edits are made, and the character stays in
front of the result. The indentation of a line stays the same too, as long as the first line starts
with no blank and the character neither is one nor ends the line.
-/

namespace Phrasebook.Source

def Span.shift (k : Nat) (s : Span) : Span := ⟨s.start + k, s.stop + k⟩

def Edit.shift (k : Nat) (e : Edit) : Edit := ⟨e.span.shift k, e.text⟩

def EditError.shift (k : Nat) : EditError → EditError
  | .overlap start applied => .overlap (start + k) (applied + k)
  | .startOutside start => .startOutside (start + k)
  | .spanOutside span => .spanOutside (span.shift k)

@[simp] theorem Span.start_shift (k : Nat) (s : Span) : (s.shift k).start = s.start + k := rfl

@[simp] theorem Span.stop_shift (k : Nat) (s : Span) : (s.shift k).stop = s.stop + k := rfl

@[simp] theorem Edit.span_shift (k : Nat) (e : Edit) : (e.shift k).span = e.span.shift k := rfl

@[simp] theorem Edit.text_shift (k : Nat) (e : Edit) : (e.shift k).text = e.text := rfl

theorem Edit.le_shift (k : Nat) (a b : Edit) : Edit.le (a.shift k) (b.shift k) = Edit.le a b := by
  have hstart : (a.span.start + k == b.span.start + k) = (a.span.start == b.span.start) := by
    rw [Bool.eq_iff_iff, beq_iff_eq, beq_iff_eq]
    omega
  simp [Edit.le, Edit.isInsertion, Span.isEmpty, hstart]

theorem mergeSort_shift (k : Nat) (edits : List Edit) :
    (edits.map (Edit.shift k)).mergeSort Edit.le = (edits.mergeSort Edit.le).map (Edit.shift k) :=
  (List.map_mergeSort fun a _ b _ => (Edit.le_shift k a b).symm).symm

theorem cut_cons (c : Char) (cs : List Char) (n : Nat) :
    cut (n + c.utf8Size) (c :: cs) =
      (cut n cs).map fun parts => (c :: parts.1, parts.2) := by
  have hpos := c.utf8Size_pos
  obtain ⟨m, hm⟩ : ∃ m, n + c.utf8Size = m + 1 := ⟨n + c.utf8Size - 1, by omega⟩
  have hrest : m + 1 - c.utf8Size = n := by omega
  rw [hm, cut, if_pos (by omega), hrest]

theorem splice_shift (k applied : Nat) (rest : List Char) (edits : List Edit) :
    splice (applied + k) rest (edits.map (Edit.shift k)) =
      (splice applied rest edits).mapError (EditError.shift k) := by
  induction edits generalizing applied rest with
  | nil => rfl
  | cons e edits ih =>
      simp only [List.map_cons, splice, Edit.span_shift, Edit.text_shift, Span.start_shift,
        Span.stop_shift, Nat.add_lt_add_iff_right, Nat.add_sub_add_right]
      split
      · rfl
      split
      · rfl
      split
      · rfl
      split
      · rfl
      rename_i behind _
      rw [ih e.span.stop behind]
      cases splice e.span.stop behind edits <;> rfl

theorem splice_cons (c : Char) (cs : List Char) (edits : List Edit) :
    splice 0 (c :: cs) (edits.map (Edit.shift c.utf8Size)) =
      ((splice 0 cs edits).mapError (EditError.shift c.utf8Size)).map (c :: ·) := by
  cases edits with
  | nil => rfl
  | cons e edits =>
      -- The first edit takes the character along, and the others are only shifted.
      simp only [List.map_cons, splice, Edit.span_shift, Edit.text_shift, Span.start_shift,
        Span.stop_shift, Nat.not_lt_zero, if_false, Nat.sub_zero, cut_cons,
        Nat.add_lt_add_iff_right, Nat.add_sub_add_right]
      cases cut e.span.start cs with
      | none => rfl
      | some parts =>
          simp only [Option.map_some]
          split
          · rfl
          split
          · rfl
          rename_i behind _
          rw [splice_shift]
          cases splice e.span.stop behind edits <;> rfl

theorem applyEdits_cons (c : Char) (source : String) (edits : List Edit) :
    applyEdits (String.singleton c ++ source) (edits.map (Edit.shift c.utf8Size)) =
      ((applyEdits source edits).mapError (EditError.shift c.utf8Size)).map
        (String.singleton c ++ ·) := by
  have hlist : (String.singleton c ++ source).toList = c :: source.toList := by simp
  rw [applyEdits, applyEdits, mergeSort_shift, hlist, splice_cons]
  cases splice 0 source.toList (edits.mergeSort Edit.le) with
  | error cause => rfl
  | ok out =>
      show Except.ok (String.ofList (c :: out)) = .ok (String.singleton c ++ String.ofList out)
      simp

theorem indentFrom_congr {line line' : List Char} (h : leadingIndent line = leadingIndent line')
    (n : Nat) (cs : List Char) : indentFrom line n cs = indentFrom line' n cs := by
  induction cs generalizing line line' n with
  | nil => cases n <;> exact h
  | cons c cs ih =>
      cases n with
      | zero => exact h
      | succ n =>
          rw [indentFrom, indentFrom]
          split
          · exact h
          · apply ih
            split
            · rfl
            · exact h

theorem leadingIndent_eq_nil {cs : List Char} (h : ∀ c ∈ cs.head?, c ≠ ' ' ∧ c ≠ '\t') :
    leadingIndent cs = [] := by
  cases cs with
  | nil => rfl
  | cons c cs =>
      obtain ⟨hblank, htab⟩ := h c rfl
      simp [leadingIndent, hblank, htab]

theorem lineIndent_cons {c : Char} {cs : List Char} (hline : c ≠ '\n') (hc : c ≠ ' ' ∧ c ≠ '\t')
    (hcs : ∀ d ∈ cs.head?, d ≠ ' ' ∧ d ≠ '\t') (offset : Nat) :
    lineIndent (c :: cs) (offset + c.utf8Size) = lineIndent cs offset := by
  have hpos := c.utf8Size_pos
  obtain ⟨m, hm⟩ : ∃ m, offset + c.utf8Size = m + 1 := ⟨offset + c.utf8Size - 1, by omega⟩
  have hrest : m + 1 - c.utf8Size = offset := by omega
  rw [lineIndent, lineIndent, hm, indentFrom, if_neg (by omega), if_neg hline, hrest]
  apply indentFrom_congr
  rw [leadingIndent_eq_nil hcs]
  apply leadingIndent_eq_nil
  rintro d ⟨⟩
  exact hc

end Phrasebook.Source
