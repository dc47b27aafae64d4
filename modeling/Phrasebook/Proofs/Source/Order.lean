import Phrasebook.Proofs.Source.Rewritten

/-!
Edits that are recorded in another order.

The order of recording counts for insertions at one place only. Two replacements never start at the
same place, and all other edits have places of their own, so what a list of edits means is the same
in every order that keeps the insertions at each place as they were.
-/

namespace Phrasebook.Source

/-- The insertions at a place. A span whose ends are swapped is none, as it is no span of any
text. -/
def insertionsAt (edits : List Edit) (offset : Nat) : List Edit :=
  edits.filter fun e => e.span.start == offset && e.span.stop == offset

/-- The same edits in another order, with the insertions at each place in the same one. -/
structure Reordered (edits others : List Edit) : Prop where
  perm : edits.Perm others
  insertions : ∀ offset, insertionsAt edits offset = insertionsAt others offset

theorem Reordered.symm {edits others : List Edit} (h : Reordered edits others) :
    Reordered others edits :=
  ⟨h.perm.symm, fun offset => (h.insertions offset).symm⟩

theorem insertedAt_eq_flatMap {edits : List Edit} (h : ∀ e ∈ edits, e.span.start ≤ e.span.stop)
    (offset : Nat) :
    insertedAt edits offset = (insertionsAt edits offset).flatMap (·.text.toList) := by
  rw [insertedAt, insertionsAt]
  congr 1
  refine List.filter_congr fun e he => ?_
  have hle := h e he
  rw [Bool.eq_iff_iff]
  simp only [Bool.and_eq_true, Edit.isInsertion_iff, beq_iff_eq]
  omega

/-- Edits that share no byte replace at most one span that starts at a place. -/
theorem replacements_cases {edits : List Edit}
    (h : edits.Pairwise fun a b => a.span.Apart b.span) (offset : Nat) :
    (edits.filter fun e => !e.isInsertion && e.span.start == offset) = [] ∨
      ∃ e, (edits.filter fun e => !e.isInsertion && e.span.start == offset) = [e] := by
  have hapart := h.filter fun e => !e.isInsertion && e.span.start == offset
  have hstart : ∀ e ∈ edits.filter (fun e => !e.isInsertion && e.span.start == offset),
      e.span.start = offset ∧ e.span.start < e.span.stop := by
    intro e he
    have hkept := (List.mem_filter.mp he).2
    simp only [Bool.and_eq_true, Bool.not_eq_true', beq_iff_eq, Edit.isInsertion_eq_false_iff]
      at hkept
    exact hkept.symm
  generalize edits.filter (fun e => !e.isInsertion && e.span.start == offset) = kept at *
  match kept with
  | [] => exact Or.inl rfl
  | [e] => exact Or.inr ⟨e, rfl⟩
  | d :: e :: rest =>
      have hd := hstart d (by simp)
      have he := hstart e (by simp)
      have hde : d.span.Apart e.span := (List.pairwise_cons.mp hapart).1 e (by simp)
      rw [Span.Apart] at hde
      omega

theorem Reordered.replacedAt_eq {edits others : List Edit} (h : Reordered edits others)
    (hapart : edits.Pairwise fun a b => a.span.Apart b.span) (offset : Nat) :
    replacedAt edits offset = replacedAt others offset := by
  have hperm := h.perm.filter fun e => !e.isInsertion && e.span.start == offset
  rw [replacedAt, replacedAt]
  rcases replacements_cases hapart offset with hnone | ⟨e, hone⟩
  · rw [hnone] at hperm ⊢
    rw [hperm.nil_eq]
  · rw [hone] at hperm ⊢
    rw [List.singleton_perm.mp hperm]

/-- What edits mean is the same in every order that keeps the insertions at each place. -/
theorem Reordered.rewritten_eq {edits others : List Edit} (h : Reordered edits others)
    (hle : ∀ e ∈ edits, e.span.start ≤ e.span.stop)
    (hapart : edits.Pairwise fun a b => a.span.Apart b.span) (offset : Nat) (cs : List Char) :
    rewritten edits offset cs = rewritten others offset cs := by
  have hinserted : ∀ offset, insertedAt edits offset = insertedAt others offset := by
    intro offset
    have hle' : ∀ e ∈ others, e.span.start ≤ e.span.stop :=
      fun e he => hle e (h.perm.mem_iff.mpr he)
    rw [insertedAt_eq_flatMap hle, insertedAt_eq_flatMap hle', h.insertions]
  have hcovered : ∀ offset, isReplaced edits offset = isReplaced others offset :=
    fun offset => h.perm.any_eq
  induction cs generalizing offset with
  | nil => exact hinserted offset
  | cons c cs ih => rw [rewritten, rewritten, hinserted, h.replacedAt_eq hapart, hcovered, ih]

/-- Edits that were applied take spans of the source and share no byte, and the result is what they
mean. -/
theorem fits_of_applyEdits {source code : String} {edits : List Edit}
    (h : applyEdits source edits = .ok code) :
    (∀ e ∈ edits, e.span.Within source.toList) ∧
      (edits.Pairwise fun a b => a.span.Apart b.span) ∧
      code.toList = rewritten edits 0 source.toList := by
  obtain ⟨out, hout, rfl⟩ := exists_of_map_eq_ok h
  have hsorted := List.mergeSort_perm edits Edit.le
  obtain ⟨hwithin, hordered⟩ := within_and_ordered_of_splice [] rfl hout
  refine ⟨fun e he => (hwithin e (hsorted.mem_iff.mpr he)).1,
    hsorted.pairwise (hordered.imp Or.inl) Span.Apart.symm, ?_⟩
  rw [String.toList_ofList, eq_rewritten_of_splice hout hordered, rewritten_mergeSort]

theorem Reordered.applyEdits_eq_ok {source code : String} {edits others : List Edit}
    (h : Reordered edits others) (hcode : applyEdits source edits = .ok code) :
    applyEdits source others = .ok code := by
  obtain ⟨hwithin, hapart, hmeaning⟩ := fits_of_applyEdits hcode
  obtain ⟨code', hcode'⟩ := exists_applyEdits_eq_ok
    (fun e he => hwithin e (h.perm.mem_iff.mpr he)) (h.perm.pairwise hapart Span.Apart.symm)
  have hmeaning' := (fits_of_applyEdits hcode').2.2
  rw [← h.rewritten_eq (fun e he => (hwithin e he).start_le_stop) hapart, ← hmeaning] at hmeaning'
  rw [hcode', String.toList_inj.mp hmeaning']

/-- Edits in two orders, with the insertions at each place in the same one, both fail or give the
same text. -/
theorem applyEdits_reordered {edits others : List Edit} (h : Reordered edits others)
    (source : String) :
    (∃ cause cause', applyEdits source edits = .error cause ∧
        applyEdits source others = .error cause') ∨
      ∃ code, applyEdits source edits = .ok code ∧ applyEdits source others = .ok code := by
  cases hedits : applyEdits source edits with
  | ok code => exact Or.inr ⟨code, rfl, h.applyEdits_eq_ok hedits⟩
  | error cause =>
      cases hothers : applyEdits source others with
      | ok code =>
          rw [h.symm.applyEdits_eq_ok hothers] at hedits
          cases hedits
      | error cause' => exact Or.inl ⟨cause, cause', rfl, rfl⟩

/-- Two insertions in front of a replacement, and one behind it. -/
def surrounded : List Edit := [.insert 0 "a", .insert 0 "b", ⟨⟨0, 1⟩, "Z"⟩, .insert 1 "c"]

def surroundedFromBehind : List Edit :=
  [.insert 1 "c", ⟨⟨0, 1⟩, "Z"⟩, .insert 0 "a", .insert 0 "b"]

theorem reordered_surrounded : Reordered surrounded surroundedFromBehind := by
  refine ⟨by decide, fun offset => ?_⟩
  rcases offset with _ | _ | offset
  · decide
  · decide
  · simp [insertionsAt, surrounded, surroundedFromBehind, Edit.insert]

theorem applyEdits_surrounded : applyEdits "xy" surrounded = .ok "abZcy" := by
  have hsorted : surrounded.Pairwise fun a b => Edit.le a b = true := by decide
  rw [applyEdits, List.mergeSort_of_pairwise hsorted]
  rfl

theorem surrounded_from_behind :
    Reordered surrounded surroundedFromBehind ∧
      applyEdits "xy" surroundedFromBehind = .ok "abZcy" := by
  refine ⟨reordered_surrounded, ?_⟩
  rcases applyEdits_reordered reordered_surrounded "xy" with ⟨_, _, herror, -⟩ | ⟨code, hcode, hcode'⟩
  · rw [applyEdits_surrounded] at herror
    cases herror
  · rw [applyEdits_surrounded] at hcode
    rw [hcode', ← hcode]

end Phrasebook.Source
