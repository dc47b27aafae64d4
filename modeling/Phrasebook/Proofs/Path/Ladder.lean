import Phrasebook.Proofs.Path.Parents

/-!
The way up from a path, step by step.

The directories above a path form a ladder: each names the same parts as the next one and then one
more, and its text begins like that of the next one. The ladder ends at the root, or with the empty
path if the path is a relative one.
-/

namespace Phrasebook.Path

/-- One path leads a part further than another. -/
structure Extends (path above : String) : Prop where
  parts : ∃ part, Path.parts path = Path.parts above ++ [part]
  absolute : isAbsolute path = isAbsolute above

/-- Paths of which each leads a part further than the next. -/
inductive Ladder : List String → Prop
  | start : Ladder [""]
  | root : Ladder ["/"]
  | step {path above : String} {rest : List String} (hextends : Extends path above)
      (htext : above.toList <+: path.toList) (hrest : Ladder (above :: rest)) :
      Ladder (path :: above :: rest)

theorem Extends.ne_empty {path above : String} (h : Extends path above) : path ≠ "" := by
  rintro rfl
  obtain ⟨part, hpart⟩ := h.parts
  exact List.append_ne_nil_of_right_ne_nil _ (by simp) hpart.symm

theorem extends_join (base : String) {name : String} (hname : IsName name) :
    Extends (join base name) base :=
  ⟨⟨.name name, parts_join base hname⟩, isAbsolute_join base hname⟩

theorem prefix_join (base : String) {name : String} (hname : IsName name) :
    base.toList <+: (join base name).toList := by
  by_cases hbase : base = ""
  · simp [hbase]
  · obtain ⟨front, hfront, hjoin⟩ := toList_join hname hbase
    rw [hjoin]
    rcases hfront with hfront | hfront
    · rw [hfront]
      exact List.prefix_append _ _
    · rw [hfront]
      exact ⟨name.toList, by simp⟩

theorem Ladder.extends_next {path above : String} {rest : List String}
    (h : Ladder (path :: above :: rest)) : Extends path above := by
  cases h with
  | step hextends _ _ => exact hextends

theorem pieces_ofPieces {ps : List (List Char)} (hne : ps ≠ []) (hroot : ps ≠ [[]])
    (h : ∀ p ∈ ps, '/' ∉ p) : pieces (ofPieces ps).toList = ps := by
  rw [ofPieces, if_neg hroot]
  exact pieces_intercalate hne h

theorem parts_ofPieces {ps : List (List Char)} (hne : ps ≠ []) (hroot : ps ≠ [[]])
    (h : ∀ p ∈ ps, '/' ∉ p) : parts (ofPieces ps) = leading ps ++ ps.filterMap partOf := by
  rw [parts_eq, pieces_ofPieces hne hroot h]

theorem filterMap_partOf_idle {ps : List (List Char)} (h : ∀ p ∈ ps, isIdle p = true) :
    ps.filterMap partOf = [] := by
  refine List.filterMap_eq_nil_iff.mpr fun p hp => ?_
  unfold partOf
  rw [← isIdle, h p hp]
  rfl

theorem exists_partOf {p : List Char} (h : isIdle p = false) : ∃ part, partOf p = some part := by
  unfold partOf
  rw [← isIdle, h]
  by_cases hup : p = ['.', '.']
  · exact ⟨.up, by simp [hup]⟩
  · exact ⟨.name (String.ofList p), by simp [hup]⟩

theorem toList_ofPieces {ps : List (List Char)} (hroot : ps ≠ [[]]) :
    (ofPieces ps).toList = ['/'].intercalate ps := by
  rw [ofPieces, if_neg hroot, String.toList_intercalate, List.map_map]
  congr 1
  simp [Function.comp_def]

theorem intercalate_append {ps qs : List (List Char)} (hps : ps ≠ []) (hqs : qs ≠ []) :
    ['/'].intercalate (ps ++ qs) = ['/'].intercalate ps ++ '/' :: ['/'].intercalate qs := by
  induction ps with
  | nil => exact absurd rfl hps
  | cons p ps ih =>
      cases ps with
      | nil =>
          obtain ⟨q, qs, rfl⟩ := List.exists_cons_of_ne_nil hqs
          rw [List.singleton_append, List.intercalate_cons_cons, List.intercalate_singleton,
            List.append_assoc, List.singleton_append]
      | cons p' ps =>
          rw [List.cons_append, List.cons_append, List.intercalate_cons_cons,
            List.intercalate_cons_cons, ← List.cons_append, ih (by simp)]
          simp only [List.append_assoc]

theorem append_ne_root {front more : List (List Char)} (hfront : front ≠ []) (hmore : more ≠ []) :
    front ++ more ≠ [[]] := by
  intro h
  rcases List.append_eq_singleton_iff.mp h with ⟨hnil, -⟩ | ⟨-, hnil⟩
  · exact hfront hnil
  · exact hmore hnil

/-- A text begins with the text of its first pieces. -/
theorem prefix_ofPieces {front more : List (List Char)} (hfront : front ≠ []) (hmore : more ≠ []) :
    (ofPieces front).toList <+: (ofPieces (front ++ more)).toList := by
  rw [toList_ofPieces (append_ne_root hfront hmore), intercalate_append hfront hmore]
  by_cases hslash : front = [[]]
  · rw [hslash]
    exact ⟨_, rfl⟩
  · rw [toList_ofPieces hslash]
    exact List.prefix_append _ _

theorem ofPieces_ne_empty {ps : List (List Char)} (hne : ps ≠ []) (hslash : ∀ p ∈ ps, '/' ∉ p) :
    ofPieces ps ≠ "" := by
  intro hempty
  by_cases hroot : ps = [[]]
  · simp [ofPieces, hroot] at hempty
  · have hpieces := pieces_ofPieces hne hroot hslash
    rw [hempty] at hpieces
    exact hroot hpieces.symm

theorem isAbsolute_ofPieces {front more : List (List Char)} (hfront : front ≠ [])
    (hmore : more ≠ []) (hslash : ∀ q ∈ front, '/' ∉ q) :
    isAbsolute (ofPieces (front ++ more)) = isAbsolute (ofPieces front) := by
  have hlist : (ofPieces front).toList ≠ [] := by simpa using ofPieces_ne_empty hfront hslash
  obtain ⟨rest, hrest⟩ := prefix_ofPieces hfront hmore
  obtain ⟨c, cs, hcs⟩ := List.exists_cons_of_ne_nil hlist
  rw [isAbsolute, isAbsolute, ← hrest, hcs]
  rfl

/-- A piece that means something leads a part further, whatever idle pieces stand before it. -/
theorem extends_ofPieces {front idles : List (List Char)} {p : List Char} (hfront : front ≠ [])
    (hidles : ∀ q ∈ idles, isIdle q = true) (hp : isIdle p = false)
    (hslash : ∀ q ∈ front ++ (idles ++ [p]), '/' ∉ q) :
    Extends (ofPieces (front ++ (idles ++ [p]))) (ofPieces front) := by
  obtain ⟨part, hpart⟩ := exists_partOf hp
  have hmore : idles ++ [p] ≠ [] := by simp
  have hinner : (idles ++ [p]).filterMap partOf = [part] := by
    rw [List.filterMap_append, filterMap_partOf_idle hidles]
    simp [hpart]
  have hslash' : ∀ q ∈ front, '/' ∉ q := fun q hq => hslash q (List.mem_append_left _ hq)
  refine ⟨⟨part, ?_⟩, isAbsolute_ofPieces hfront hmore hslash'⟩
  rw [parts_ofPieces (by simp) (append_ne_root hfront hmore) hslash, List.filterMap_append, hinner,
    ← List.append_assoc]
  by_cases hroot : front = [[]]
  · have hleading : leading (front ++ (idles ++ [p])) = [.root] := by simp [leading, hroot]
    rw [hleading, hroot]
    rfl
  · rw [leading_append hfront hroot, parts_ofPieces hfront hroot hslash']

/-- The first of the shortened paths lacks nothing but idle pieces. -/
theorem exists_shortened {ps : List (List Char)} (hne : ps ≠ []) :
    ∃ idles top rest, ps = idles ++ top ∧ (∀ q ∈ idles, isIdle q = true) ∧ top ≠ [] ∧
      shortened ps = top :: rest := by
  fun_induction shortened ps with
  | case1 => exact absurd rfl hne
  | case2 p => exact ⟨[], [p], [], rfl, by simp, by simp, rfl⟩
  | case3 p ps hps hidle ih =>
      obtain ⟨idles, top, rest, rfl, hidles, htop, hshort⟩ := ih (by simpa using hps)
      refine ⟨p :: idles, top, rest, rfl, ?_, htop, hshort⟩
      intro q hq
      rcases List.mem_cons.mp hq with rfl | hq
      · exact hidle
      · exact hidles q hq
  | case4 p ps hps hidle ih => exact ⟨[], p :: ps, shortened ps, rfl, by simp, by simp, rfl⟩

/-- A relative path of one piece leads one part away from where it starts. -/
theorem extends_start {p : List Char} (hp : p ≠ []) (hslash : '/' ∉ p) :
    Extends (ofPieces [p]) "" := by
  have hpieces : pieces (ofPieces [p]).toList = [p] :=
    pieces_ofPieces (by simp) (by simpa using hp) (by simpa using hslash)
  have hne : ofPieces [p] ≠ "" := ofPieces_ne_empty (by simp) (by simpa using hslash)
  constructor
  · rw [parts_eq, hpieces]
    by_cases hhere : p = ['.']
    · exact ⟨.here, by simp [hhere, leading, partOf, parts_eq, pieces]⟩
    · have hidle : isIdle p = false := by simp [isIdle, hp, hhere]
      obtain ⟨part, hpart⟩ := exists_partOf hidle
      have hempty : parts "" = [] := rfl
      exact ⟨part, by simp [hp, hhere, leading, hpart, hempty]⟩
  · have hrelative : isAbsolute (ofPieces [p]) ≠ true := by
      rw [ne_eq, isAbsolute_iff hne, hpieces]
      simpa using hp
    simpa [isAbsolute] using hrelative

theorem ladder_shortened {ps : List (List Char)} (hne : ps ≠ []) (hslash : ∀ p ∈ ps, '/' ∉ p) :
    Ladder ((shortened ps).map (fun qs => ofPieces qs.reverse) ++
      if ps.getLast? = some [] then [] else [""]) := by
  fun_induction shortened ps with
  | case1 => exact absurd rfl hne
  | case2 p =>
      by_cases hp : p = []
      · subst hp
        exact .root
      · have hextends := extends_start hp (hslash p List.mem_cons_self)
        simpa [hp] using Ladder.step hextends List.nil_prefix .start
  | case3 p ps hps hidle ih =>
      have hps' : ps ≠ [] := by simpa using hps
      rw [List.getLast?_cons_of_ne_nil hps']
      exact ih hps' fun q hq => hslash q (List.mem_cons_of_mem _ hq)
  | case4 p ps hps hidle ih =>
      have hps' : ps ≠ [] := by simpa using hps
      have hrest := ih hps' fun q hq => hslash q (List.mem_cons_of_mem _ hq)
      obtain ⟨idles, top, rest, hsplit, hidles, htop, hshort⟩ := exists_shortened hps'
      have hreverse : (p :: ps).reverse = top.reverse ++ (idles.reverse ++ [p]) := by
        rw [List.reverse_cons, hsplit, List.reverse_append, List.append_assoc]
      rw [List.getLast?_cons_of_ne_nil hps', List.map_cons, hreverse]
      rw [hshort] at hrest ⊢
      have htop' : top.reverse ≠ [] := by simpa using htop
      refine .step (extends_ofPieces htop' (by simpa using hidles) (by simpa using hidle) ?_)
        (prefix_ofPieces htop' (by simp)) hrest
      rw [← hreverse]
      exact fun q hq => hslash q (List.mem_reverse.mp hq)

theorem shortened_of_mem {ps qs : List (List Char)} (h : qs ∈ shortened ps) :
    ∃ rest, shortened qs = qs :: rest := by
  fun_induction shortened ps with
  | case1 => cases h
  | case2 p =>
      obtain rfl := List.mem_singleton.mp h
      exact ⟨[], rfl⟩
  | case3 p ps hps hidle ih => exact ih h
  | case4 p ps hps hidle ih =>
      rcases List.mem_cons.mp h with rfl | hrest
      · exact ⟨shortened ps, by rw [shortened, if_neg hidle]; exact hps⟩
      · exact ih hrest

/-- The directories above a path continue the ladder of what is left of it without idle pieces. -/
theorem ladder_parents {path : String} (hne : path ≠ "") {ps : List (List Char)}
    {rest : List (List (List Char))}
    (hshort : shortened (pieces path.toList).reverse = ps :: rest) :
    Ladder (ofPieces ps.reverse :: parents path) := by
  have hreverse : (pieces path.toList).reverse ≠ [] := by simpa using pieces_ne_nil _
  have hladder := ladder_shortened hreverse
    fun p hp => not_mem_of_mem_pieces (List.mem_reverse.mp hp)
  have hempty : path.isEmpty = false := by simpa using hne
  rw [hshort, List.getLast?_reverse] at hladder
  unfold parents
  rw [hshort, hempty, Bool.or_false]
  by_cases habsolute : isAbsolute path = true
  · rw [if_pos ((isAbsolute_iff hne).mp habsolute), List.append_nil] at hladder
    rw [if_pos habsolute]
    exact hladder
  · rw [if_neg (mt (isAbsolute_iff hne).mpr habsolute)] at hladder
    rw [if_neg habsolute]
    exact hladder

/-- From every directory above a path a ladder leads up. -/
theorem ladder_of_mem_parents {path above : String} (h : above ∈ parents path) (hne : above ≠ "") :
    Ladder (above :: parents above) := by
  obtain ⟨ps, hps, rfl⟩ := exists_of_mem_parents h hne
  obtain ⟨hpsne, hsuffix⟩ := suffix_of_mem_shortened (List.mem_of_mem_tail hps)
  by_cases hroot : ps.reverse = [[]]
  · rw [hroot]
    exact .root
  · obtain ⟨rest, hshort⟩ := shortened_of_mem (List.mem_of_mem_tail hps)
    have hpieces : pieces (ofPieces ps.reverse).toList = ps.reverse := by
      refine pieces_ofPieces (by simpa using hpsne) hroot fun p hp => ?_
      exact not_mem_of_mem_pieces (List.mem_reverse.mp (hsuffix.subset (List.mem_reverse.mp hp)))
    exact ladder_parents hne (by rw [hpieces, List.reverse_reverse, hshort])

/-- A path is the top of a ladder, but for idle pieces at its end. -/
theorem exists_ladder {path : String} (hne : path ≠ "") :
    ∃ top, top ≠ "" ∧ parts path = parts top ∧ isAbsolute path = isAbsolute top ∧
      Ladder (top :: parents path) := by
  have hreverse : (pieces path.toList).reverse ≠ [] := by simpa using pieces_ne_nil _
  obtain ⟨idles, top, more, hsplit, hidles, htop, hshort⟩ := exists_shortened hreverse
  have hpieces : pieces path.toList = top.reverse ++ idles.reverse := by
    rw [← List.reverse_append, ← hsplit, List.reverse_reverse]
  have htop' : top.reverse ≠ [] := by simpa using htop
  have hslash : ∀ p ∈ top.reverse, '/' ∉ p :=
    fun p hp => not_mem_of_mem_pieces (hpieces ▸ List.mem_append_left _ hp)
  have hidle : idles.reverse.filterMap partOf = [] :=
    filterMap_partOf_idle fun q hq => hidles q (List.mem_reverse.mp hq)
  have hne' := ofPieces_ne_empty htop' hslash
  refine ⟨_, hne', ?_, ?_, ladder_parents hne hshort⟩
  · by_cases hroot : top.reverse = [[]]
    · have hmore : idles.reverse ≠ [] := by
        intro hnone
        rw [hroot, hnone] at hpieces
        exact pieces_ne_singleton_nil (by simpa using hne) hpieces
      obtain ⟨q, qs, hq⟩ := List.exists_cons_of_ne_nil hmore
      rw [parts_eq, hpieces, List.filterMap_append, hidle, hroot, hq]
      rfl
    · rw [parts_eq, hpieces, List.filterMap_append, hidle, List.append_nil,
        leading_append htop' hroot, parts_ofPieces htop' hroot hslash]
  · rw [Bool.eq_iff_iff, isAbsolute_iff hne, hpieces]
    by_cases hroot : top.reverse = [[]]
    · simp [hroot, ofPieces, isAbsolute]
    · rw [isAbsolute_iff hne', pieces_ofPieces htop' hroot hslash]
      obtain ⟨p, ps, hp⟩ := List.exists_cons_of_ne_nil htop'
      simp [hp]

/-- A path leads a part further than the directory that it lies in. -/
theorem extends_parent {path above : String} {rest : List String} (hne : path ≠ "")
    (h : parents path = above :: rest) : Extends path above := by
  obtain ⟨top, -, hparts, habsolute, hladder⟩ := exists_ladder hne
  rw [h] at hladder
  have hextends := hladder.extends_next
  exact ⟨hparts ▸ hextends.parts, habsolute.trans hextends.absolute⟩

/-- Nothing lies above the root only. -/
theorem parts_of_parents_eq_nil {path : String} (hne : path ≠ "") (h : parents path = []) :
    parts path = [.root] := by
  obtain ⟨top, htop, hparts, -, hladder⟩ := exists_ladder hne
  rw [h] at hladder
  cases hladder with
  | start => exact absurd rfl htop
  | root => exact hparts

theorem ladder_here : Ladder ("." :: parents ".") :=
  .step ⟨⟨.here, rfl⟩, rfl⟩ List.nil_prefix .start

end Phrasebook.Path
