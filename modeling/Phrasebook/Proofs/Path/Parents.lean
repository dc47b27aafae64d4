import Phrasebook.Proofs.Path.Parts

/-!
The directories above a path.

Each of them is named by the first parts of the path, so the way to it is a piece of the way that
the path takes.
-/

namespace Phrasebook.Path

theorem pieces_intercalate {ps : List (List Char)} (hne : ps ≠ []) (h : ∀ p ∈ ps, '/' ∉ p) :
    pieces ("/".intercalate (ps.map String.ofList)).toList = ps := by
  have hlist : ("/".intercalate (ps.map String.ofList)).toList = ['/'].intercalate ps := by
    rw [String.toList_intercalate, List.map_map]
    congr 1
    simp [Function.comp_def]
  rw [hlist]
  clear hlist
  induction ps with
  | nil => exact absurd rfl hne
  | cons p ps ih =>
      have hp : '/' ∉ p := h p List.mem_cons_self
      cases ps with
      | nil => rw [List.intercalate_singleton, pieces_of_not_mem hp]
      | cons q ps =>
          have hrest := ih (by simp) fun p hp => h p (List.mem_cons_of_mem _ hp)
          rw [List.intercalate_cons_cons, List.append_assoc, List.singleton_append,
            pieces_append_slash, hrest, pieces_of_not_mem hp]
          rfl

theorem suffix_of_mem_shortened {ps qs : List (List Char)} (h : qs ∈ shortened ps) :
    qs ≠ [] ∧ qs <:+ ps := by
  fun_induction shortened ps with
  | case1 => cases h
  | case2 p =>
      obtain rfl := List.mem_singleton.mp h
      exact ⟨by simp, List.suffix_refl _⟩
  | case3 p ps hps hidle ih =>
      obtain ⟨hne, hsuffix⟩ := ih h
      exact ⟨hne, hsuffix.trans (List.suffix_cons p ps)⟩
  | case4 p ps hps hidle ih =>
      rcases List.mem_cons.mp h with rfl | hrest
      · exact ⟨by simp, List.suffix_refl _⟩
      · obtain ⟨hne, hsuffix⟩ := ih hrest
        exact ⟨hne, hsuffix.trans (List.suffix_cons p ps)⟩

theorem isAbsolute_iff {path : String} (hne : path ≠ "") :
    isAbsolute path = true ↔ (pieces path.toList).head? = some [] := by
  unfold isAbsolute
  rcases hlist : path.toList with _ | ⟨c, cs⟩
  · exact absurd (String.toList_eq_nil_iff.mp hlist) hne
  · obtain ⟨p, ps, hp⟩ := List.exists_cons_of_ne_nil (pieces_ne_nil cs)
    by_cases hc : c = '/'
    · simp [pieces, hc]
    · simp [pieces, hc, hp]

theorem prefix_of_pieces {path above : String} {more : List (List Char)}
    (h : pieces path.toList = pieces above.toList ++ more) (habove : above ≠ "")
    (hpath : path ≠ "") :
    parts above <+: parts path ∧ isAbsolute above = isAbsolute path := by
  have hlist : above.toList ≠ [] := by simpa using habove
  constructor
  · rw [parts_eq, parts_eq, h, leading_append (pieces_ne_nil _) (pieces_ne_singleton_nil hlist),
      List.filterMap_append, ← List.append_assoc]
    exact List.prefix_append _ _
  · rw [Bool.eq_iff_iff, isAbsolute_iff habove, isAbsolute_iff hpath, h]
    obtain ⟨p, ps, hp⟩ := List.exists_cons_of_ne_nil (pieces_ne_nil above.toList)
    simp [hp]

theorem exists_of_mem_parents {path above : String} (h : above ∈ parents path) (hne : above ≠ "") :
    ∃ ps ∈ (shortened (pieces path.toList).reverse).tail, ofPieces ps.reverse = above := by
  refine List.mem_map.mp ?_
  unfold parents at h
  simp only at h
  split at h
  · exact h
  · rcases List.mem_append.mp h with h | h
    · exact h
    · exact absurd (List.mem_singleton.mp h) hne

/-- The directories above a path are named by its first parts. -/
theorem prefix_of_mem_parents {path above : String} (h : above ∈ parents path)
    (hne : above ≠ "") : parts above <+: parts path ∧ isAbsolute above = isAbsolute path := by
  obtain ⟨ps, hps, rfl⟩ := exists_of_mem_parents h hne
  obtain ⟨hpsne, more, hmore⟩ := suffix_of_mem_shortened (List.mem_of_mem_tail hps)
  have hsplit : pieces path.toList = ps.reverse ++ more.reverse := by
    rw [← List.reverse_append, hmore, List.reverse_reverse]
  have hpath : path ≠ "" := by
    rintro rfl
    cases hps
  by_cases hroot : ps.reverse = [[]]
  · -- The root has a text of its own: its one piece is empty, but it is written with a slash.
    have hslash : ofPieces ps.reverse = "/" := by rw [ofPieces, if_pos hroot]
    rw [hslash]
    rw [hroot] at hsplit
    have hmore' : more.reverse ≠ [] := by
      intro hnone
      rw [hnone] at hsplit
      exact pieces_ne_singleton_nil (by simpa using hpath) hsplit
    constructor
    · rw [parts_eq path, hsplit]
      obtain ⟨q, qs, hq⟩ := List.exists_cons_of_ne_nil hmore'
      rw [hq]
      exact ⟨_, rfl⟩
    · have habsolute : isAbsolute path = true := (isAbsolute_iff hpath).mpr (by rw [hsplit]; rfl)
      rw [habsolute]
      rfl
  · have hpieces : pieces (ofPieces ps.reverse).toList = ps.reverse := by
      rw [ofPieces, if_neg hroot]
      refine pieces_intercalate (by simpa using hpsne) fun p hp => ?_
      have hmem : p ∈ pieces path.toList := hsplit ▸ List.mem_append_left _ hp
      exact not_mem_of_mem_pieces hmem
    rw [← hpieces] at hsplit
    exact prefix_of_pieces hsplit hne hpath

end Phrasebook.Path
