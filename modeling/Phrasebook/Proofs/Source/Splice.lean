import Phrasebook.Proofs.Result
import Phrasebook.Source.Edit

/-!
What a spliced text is made of.

Every edit cuts the work in two: what stands before it is spliced with the edits before it, what
stands behind it with those behind it, and its own text comes between the two results.
-/

namespace Phrasebook

theorem Text.eq_nil_of_byteLength {cs : List Char} (h : byteLength cs = 0) : cs = [] := by
  cases cs with
  | nil => rfl
  | cons c cs =>
      have hpos := c.utf8Size_pos
      simp only [byteLength] at h
      omega

namespace Source

theorem cut_append (before behind : List Char) :
    cut (Text.byteLength before) (before ++ behind) = some (before, behind) := by
  induction before with
  | nil => simp [Text.byteLength, cut]
  | cons c cs ih =>
      have hpos : 0 < c.utf8Size := c.utf8Size_pos
      obtain ⟨n, hn⟩ : ∃ n, Text.byteLength (c :: cs) = n + 1 :=
        ⟨c.utf8Size + Text.byteLength cs - 1, by simp only [Text.byteLength]; omega⟩
      have hle : c.utf8Size ≤ n + 1 := by
        simp only [Text.byteLength] at hn
        omega
      have hrest : n + 1 - c.utf8Size = Text.byteLength cs := by
        simp only [Text.byteLength] at hn
        omega
      rw [hn, List.cons_append, cut, if_pos hle, hrest, ih]
      rfl

/-- A cut is determined by its first part. -/
theorem cut_eq_some_iff {n : Nat} {cs before behind : List Char} :
    cut n cs = some (before, behind) ↔
      cs = before ++ behind ∧ Text.byteLength before = n := by
  constructor
  · exact eq_append_of_cut
  · rintro ⟨rfl, rfl⟩
    exact cut_append before behind

theorem splice_cons_eq_ok_iff {applied : Nat} {rest : List Char} {e : Edit}
    {edits : List Edit} {out : List Char} :
    splice applied rest (e :: edits) = .ok out ↔
      applied ≤ e.span.start ∧ e.span.start ≤ e.span.stop ∧
        ∃ kept taken behind result,
          rest = kept ++ taken ++ behind ∧
          Text.byteLength kept = e.span.start - applied ∧
          Text.byteLength taken = e.span.stop - e.span.start ∧
          splice e.span.stop behind edits = .ok result ∧
          out = kept ++ e.text.toList ++ result := by
  constructor
  · intro h
    rw [splice] at h
    split at h
    · cases h
    rename_i hstart
    split at h
    · cases h
    rename_i kept tail hkept
    split at h
    · cases h
    rename_i hstop
    split at h
    · cases h
    rename_i taken behind htaken
    split at h
    · cases h
    rename_i result hresult
    cases h
    obtain ⟨rfl, hkeptLength⟩ := eq_append_of_cut hkept
    obtain ⟨rfl, htakenLength⟩ := eq_append_of_cut htaken
    exact ⟨by omega, by omega, kept, taken, behind, result, by simp, hkeptLength, htakenLength,
      hresult, rfl⟩
  · rintro ⟨hstart, hstop, kept, taken, behind, result, rfl, hkept, htaken, hresult, rfl⟩
    have hcutKept : cut (e.span.start - applied) (kept ++ taken ++ behind) =
        some (kept, taken ++ behind) := cut_eq_some_iff.mpr ⟨by simp, hkept⟩
    have hcutTaken : cut (e.span.stop - e.span.start) (taken ++ behind) =
        some (taken, behind) := cut_eq_some_iff.mpr ⟨rfl, htaken⟩
    rw [splice, if_neg (by omega), hcutKept]
    simp only [if_neg (show ¬ e.span.stop < e.span.start by omega), hcutTaken, hresult]

/-- The text of an edit stands between what the edits before it make of the text in front of it
and what the edits behind it make of the text behind it. -/
theorem splice_append_cons {applied : Nat} {rest : List Char} {first second : List Edit}
    {e : Edit} {out : List Char} (h : splice applied rest (first ++ e :: second) = .ok out) :
    applied ≤ e.span.start ∧
      ∃ front taken back before behind,
        rest = front ++ taken ++ back ∧
        Text.byteLength front = e.span.start - applied ∧
        splice applied front first = .ok before ∧
        splice e.span.stop back second = .ok behind ∧
        out = before ++ e.text.toList ++ behind := by
  induction first generalizing applied rest out with
  | nil =>
      obtain ⟨hstart, -, kept, taken, back, behind, hrest, hkept, -, hbehind, hout⟩ :=
        splice_cons_eq_ok_iff.mp h
      exact ⟨hstart, kept, taken, back, kept, behind, hrest, hkept, rfl, hbehind, hout⟩
  | cons d first ih =>
      obtain ⟨hd, hdSpan, kept, dropped, tail, result, rfl, hkept, hdropped, hresult, rfl⟩ :=
        splice_cons_eq_ok_iff.mp h
      obtain ⟨hstart, front, taken, back, before, behind, rfl, hfront, hbefore, hbehind, rfl⟩ :=
        ih hresult
      refine ⟨by omega, kept ++ dropped ++ front, taken, back,
        kept ++ d.text.toList ++ before, behind, by simp, ?_, ?_, hbehind, by simp⟩
      · simp only [Text.byteLength_append]
        omega
      · exact splice_cons_eq_ok_iff.mpr ⟨hd, hdSpan, kept, dropped, front, before, rfl, hkept,
          hdropped, hbefore, rfl⟩

/-- The same for edits recorded in any order: the edits that are applied before a given one are
among those recorded. -/
theorem applyEdits_of_mem {source code : String} {edits : List Edit} {e : Edit}
    (h : applyEdits source edits = .ok code) (he : e ∈ edits) :
    ∃ first front back before behind,
      first ⊆ edits ∧ e ∉ first ∧
      source.toList = front ++ back ∧
      Text.byteLength front = e.span.start ∧
      splice 0 front first = .ok before ∧
      code.toList = before ++ e.text.toList ++ behind := by
  have hsorted : e ∈ edits.mergeSort Edit.le := by simpa using he
  obtain ⟨first, second, hsplit, hfirst⟩ := List.eq_append_cons_of_mem hsorted
  rw [applyEdits, hsplit] at h
  cases hsplice : splice 0 source.toList (first ++ e :: second) with
  | error cause => simp [hsplice, Except.map] at h
  | ok out =>
      obtain ⟨-, front, taken, back, before, behind, hsource, hfront, hbefore, -, rfl⟩ :=
        splice_append_cons hsplice
      have hcode : code = String.ofList (before ++ e.text.toList ++ behind) := by
        simpa [hsplice, Except.map] using h.symm
      refine ⟨first, front, taken ++ back, before, behind, ?_, hfirst, by simpa using hsource,
        by simpa using hfront, hbefore, by simp [hcode]⟩
      intro d hd
      have hd' : d ∈ edits.mergeSort Edit.le := by simp [hsplit, hd]
      simpa using hd'

/-- The first character of a spliced text comes from the text or from an edit. -/
theorem head?_of_splice {applied : Nat} {rest out : List Char} {edits : List Edit} {c : Char}
    (h : splice applied rest edits = .ok out) (hrest : rest.head? ≠ some c)
    (hedits : ∀ e ∈ edits, ∃ d ∈ e.text.toList.head?, d ≠ c) : out.head? ≠ some c := by
  cases edits with
  | nil =>
      obtain rfl := Except.ok.inj h
      exact hrest
  | cons e edits =>
      obtain ⟨-, -, kept, taken, behind, result, rfl, -, -, -, rfl⟩ := splice_cons_eq_ok_iff.mp h
      cases kept with
      | nil =>
          obtain ⟨d, hd, hne⟩ := hedits e List.mem_cons_self
          rw [List.nil_append, List.head?_append, Option.mem_def.mp hd]
          simpa using hne
      | cons d kept => exact hrest

end Source

end Phrasebook
