import Phrasebook.Path.Basic

/-!
The parts of a path that is put together.

A name is a text that a path can hold between two slashes and that leads down. Every name among
the parts of a path is one, and joining a name to a path adds one part at its end.
-/

namespace Phrasebook.Path

/-- What a file or a directory can be called. -/
def IsName (name : String) : Prop :=
  name ≠ "" ∧ name ≠ "." ∧ name ≠ ".." ∧ '/' ∉ name.toList

instance : DecidablePred IsName := fun _ => inferInstanceAs (Decidable (_ ∧ _))

theorem pieces_ne_nil (cs : List Char) : pieces cs ≠ [] := by
  cases cs with
  | nil => simp [pieces]
  | cons c cs =>
      rw [pieces]
      split
      · simp
      · split <;> simp

theorem pieces_append_slash (as bs : List Char) :
    pieces (as ++ '/' :: bs) = pieces as ++ pieces bs := by
  induction as with
  | nil => simp [pieces]
  | cons a as ih =>
      by_cases ha : a = '/'
      · simp [pieces, ha, ih]
      · obtain ⟨p, ps, hp⟩ := List.exists_cons_of_ne_nil (pieces_ne_nil as)
        simp [pieces, ha, ih, hp]

theorem pieces_of_not_mem {cs : List Char} (h : '/' ∉ cs) : pieces cs = [cs] := by
  induction cs with
  | nil => rfl
  | cons c cs ih =>
      obtain ⟨hc, hcs⟩ := not_or.mp (mt List.mem_cons.mpr h)
      simp [pieces, Ne.symm hc, ih hcs]

theorem not_mem_of_mem_pieces {cs piece : List Char} (h : piece ∈ pieces cs) : '/' ∉ piece := by
  induction cs generalizing piece with
  | nil =>
      have hpiece : piece = [] := by simpa [pieces] using h
      simp [hpiece]
  | cons c cs ih =>
      obtain ⟨p, ps, hp⟩ := List.exists_cons_of_ne_nil (pieces_ne_nil cs)
      by_cases hc : c = '/'
      · rcases List.mem_cons.mp (by simpa [pieces, hc] using h) with rfl | hrest
        · simp
        · exact ih hrest
      · rcases List.mem_cons.mp (by simpa [pieces, hc, hp] using h) with rfl | hrest
        · have hfirst : '/' ∉ p := ih (by simp [hp])
          simp [hfirst, Ne.symm hc]
        · exact ih (by simp [hp, hrest])

/-- The part that only the first piece of a path can make. -/
def leading (all : List (List Char)) : List Part :=
  if all.head? = some [] ∧ 1 < all.length then [.root]
  else if all.head? = some ['.'] then [.here]
  else []

theorem parts_eq (path : String) :
    parts path = leading (pieces path.toList) ++ (pieces path.toList).filterMap partOf := by
  unfold parts leading
  rcases pieces path.toList with _ | ⟨p, _ | ⟨q, ps⟩⟩
  · rfl
  · by_cases hdot : p = ['.']
    · simp [hdot]
    · simp [hdot]
  · by_cases hempty : p = []
    · simp [hempty]
    · by_cases hdot : p = ['.']
      · simp [hdot]
      · simp [hempty, hdot]

theorem leading_append {all : List (List Char)} (hnil : all ≠ []) (hempty : all ≠ [[]])
    (more : List (List Char)) : leading (all ++ more) = leading all := by
  obtain ⟨p, ps, rfl⟩ := List.exists_cons_of_ne_nil hnil
  rcases p with _ | ⟨c, cs⟩
  · have hmore : ps ≠ [] := fun h => hempty (by rw [h])
    obtain ⟨q, qs, rfl⟩ := List.exists_cons_of_ne_nil hmore
    simp [leading]
  · simp [leading]

theorem leading_append_singleton {all : List (List Char)} (hnil : all ≠ []) (p q : List Char) :
    leading (all ++ [p]) = leading (all ++ [q]) := by
  obtain ⟨first, rest, rfl⟩ := List.exists_cons_of_ne_nil hnil
  simp [leading]

theorem pieces_ne_singleton_nil {cs : List Char} (h : cs ≠ []) : pieces cs ≠ [[]] := by
  obtain ⟨c, cs, rfl⟩ := List.exists_cons_of_ne_nil h
  obtain ⟨p, ps, hp⟩ := List.exists_cons_of_ne_nil (pieces_ne_nil cs)
  by_cases hc : c = '/' <;> simp [pieces, hc, hp]

theorem partOf_toList {name : String} (h : IsName name) :
    partOf name.toList = some (.name name) := by
  obtain ⟨hempty, hdot, hdots, -⟩ := h
  have h1 : name.toList ≠ [] := by simpa using hempty
  have h2 : name.toList ≠ ['.'] := fun e => hdot (String.toList_inj.mp e)
  have h3 : name.toList ≠ ['.', '.'] := fun e => hdots (String.toList_inj.mp e)
  simp [partOf, h1, h2, h3]

theorem isName_of_partOf {piece : List Char} {name : String} (hslash : '/' ∉ piece)
    (h : partOf piece = some (.name name)) : IsName name := by
  unfold partOf at h
  split at h
  · cases h
  rename_i hidle
  split at h
  · cases h
  rename_i hup
  cases h
  have hlist : ∀ cs : List Char, String.ofList piece = String.ofList cs → piece = cs :=
    fun cs e => by simpa using congrArg String.toList e
  simp only [Bool.or_eq_true, decide_eq_true_eq, not_or] at hidle hup
  exact ⟨fun e => hidle.1 (hlist [] e), fun e => hidle.2 (hlist ['.'] e),
    fun e => hup (hlist ['.', '.'] e), by simpa using hslash⟩

theorem isName_of_mem_parts {path name : String} (h : .name name ∈ parts path) : IsName name := by
  rw [parts_eq, List.mem_append] at h
  rcases h with hleading | hinner
  · unfold leading at hleading
    split at hleading
    · simp at hleading
    · split at hleading <;> simp at hleading
  · obtain ⟨piece, hpiece, hpart⟩ := List.mem_filterMap.mp hinner
    exact isName_of_partOf (not_mem_of_mem_pieces hpiece) hpart

theorem isAbsolute_of_isName {name : String} (h : IsName name) : isAbsolute name = false := by
  unfold isAbsolute
  rcases hlist : name.toList with _ | ⟨c, cs⟩
  · rfl
  · have hc : c ≠ '/' := by
      rintro rfl
      exact h.2.2.2 (by simp [hlist])
    simpa using hc

theorem toList_join {base name : String} (hname : IsName name) (hbase : base ≠ "") :
    ∃ front, (base.toList = front ∨ base.toList = front ++ ['/']) ∧
      (join base name).toList = front ++ '/' :: name.toList := by
  have hempty : base.isEmpty = false := by simpa using hbase
  unfold join
  rw [isAbsolute_of_isName hname, hempty]
  simp only [Bool.or_self, Bool.false_eq_true, if_false]
  split
  · rename_i hlast
    obtain ⟨front, hfront⟩ := List.getLast?_eq_some_iff.mp hlast
    exact ⟨front, Or.inr hfront, by simp [hfront]⟩
  · exact ⟨base.toList, Or.inl rfl, by simp⟩

theorem isAbsolute_join (base : String) {name : String} (hname : IsName name) :
    isAbsolute (join base name) = isAbsolute base := by
  by_cases hbase : base = ""
  · subst hbase
    have hjoin : join "" name = name := by simp [join]
    rw [hjoin, isAbsolute_of_isName hname]
    rfl
  · obtain ⟨front, hfront, hjoin⟩ := toList_join hname hbase
    have hlist : base.toList ≠ [] := by simpa using hbase
    rcases front with _ | ⟨c, front⟩
    · rcases hfront with hfront | hfront
      · exact absurd hfront hlist
      · simp [isAbsolute, hjoin, hfront]
    · rcases hfront with hfront | hfront <;> simp [isAbsolute, hjoin, hfront]

theorem parts_join (base : String) {name : String} (hname : IsName name) :
    parts (join base name) = parts base ++ [.name name] := by
  have hpieces : pieces name.toList = [name.toList] := pieces_of_not_mem hname.2.2.2
  by_cases hbase : base = ""
  · subst hbase
    have hjoin : join "" name = name := by simp [join]
    have hdot : name.toList ≠ ['.'] := fun e => hname.2.1 (String.toList_inj.mp e)
    have hempty : parts "" = [] := rfl
    rw [hjoin, parts_eq, hpieces, hempty]
    simp [leading, hdot, partOf_toList hname]
  · obtain ⟨front, hfront, hjoin⟩ := toList_join hname hbase
    have hlist : base.toList ≠ [] := by simpa using hbase
    rw [parts_eq, parts_eq base, hjoin, pieces_append_slash, hpieces, List.filterMap_append]
    rcases hfront with hfront | hfront
    · rw [hfront] at hlist
      rw [hfront, leading_append (pieces_ne_nil front) (pieces_ne_singleton_nil hlist)]
      simp [partOf_toList hname]
    · have hlast : pieces [] = [[]] := rfl
      rw [hfront, pieces_append_slash, hlast,
        leading_append_singleton (pieces_ne_nil front) name.toList []]
      have hidle : partOf [] = none := rfl
      simp [partOf_toList hname, hidle]

end Phrasebook.Path
