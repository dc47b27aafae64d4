import Phrasebook.Proofs.Disk.Frame
import Phrasebook.Proofs.Result

/-!
What a disk gains by writing files.

A write makes the directories that are missing on the way to its file. If all steps up along the
path can be taken from the start, these lie above the file, and nothing appears elsewhere.
-/

namespace Phrasebook

open Disk (Content Location Node)

/-- Behind the last step up of a path, only names follow. -/
theorem Path.exists_names {parts : List Path.Part}
    (h : ∀ part ∈ parts, part = .up ∨ ∃ name, part = .name name) :
    ∃ (front : List Path.Part) (names : List String),
      parts = front ++ names.map .name ∧ (front = [] ∨ ∃ before, front = before ++ [.up]) := by
  induction parts with
  | nil => exact ⟨[], [], rfl, Or.inl rfl⟩
  | cons part parts ih =>
      obtain ⟨front, names, rfl, hfront⟩ :=
        ih fun part hpart => h part (List.mem_cons_of_mem _ hpart)
      rcases hfront with rfl | ⟨before, rfl⟩
      · rcases h part List.mem_cons_self with rfl | ⟨name, rfl⟩
        · exact ⟨[.up], names, rfl, Or.inr ⟨[], rfl⟩⟩
        · exact ⟨[], name :: names, rfl, Or.inl rfl⟩
      · exact ⟨part :: (before ++ [.up]), names, rfl, Or.inr ⟨part :: before, rfl⟩⟩

theorem Path.up_or_name_of_partOf {piece : List Char} {part : Path.Part}
    (h : Path.partOf piece = some part) : part = .up ∨ ∃ name, part = .name name := by
  unfold Path.partOf at h
  split at h
  · cases h
  split at h
  · exact Or.inl (Option.some.inj h).symm
  · exact Or.inr ⟨_, (Option.some.inj h).symm⟩

namespace Workspace

/-- A path whose steps up can all be taken. -/
def Climbable (w : Workspace) (path : String) : Prop :=
  ∀ front back, Path.parts path = front ++ .up :: back →
    ∃ loc, w.disk.walk (w.origin path) (front ++ [.up]) = .ok loc

/-- Every path without a step up is one, on every disk. -/
theorem climbable_of_not_mem {w : Workspace} {path : String} (h : .up ∉ Path.parts path) :
    w.Climbable path := by
  intro front back hparts
  refine absurd ?_ h
  rw [hparts]
  exact List.mem_append_right _ List.mem_cons_self

theorem Rooted.origin {w : Workspace} (h : w.Rooted) (path : String) :
    ∃ mode, w.disk.get? (w.origin path) = some (.directory mode) := by
  unfold Workspace.origin
  split
  · exact ⟨_, rfl⟩
  · exact h.directory

theorem Rooted.walk_leading {w : Workspace} (h : w.Rooted) (path : String)
    (pieces : List (List Char)) :
    ∃ loc, w.disk.walk (w.origin path) (Path.leading pieces) = .ok loc := by
  obtain ⟨mode, hdir⟩ := h.origin path
  unfold Path.leading
  split
  · exact ⟨[], by simp only [Disk.walk, Disk.step, hdir]⟩
  split
  · exact ⟨w.origin path, by simp only [Disk.walk, Disk.step, hdir]⟩
  · exact ⟨w.origin path, rfl⟩

theorem Climbable.steady {w : Workspace} {path : String} (h : w.Climbable path)
    (hrooted : w.Rooted) : w.Steady path := by
  have hinner : ∀ part ∈ (Path.pieces path.toList).filterMap Path.partOf,
      part = .up ∨ ∃ name, part = .name name := by
    intro part hpart
    obtain ⟨piece, -, hpiece⟩ := List.mem_filterMap.mp hpart
    exact Path.up_or_name_of_partOf hpiece
  obtain ⟨front, names, hsplit, hfront⟩ := Path.exists_names hinner
  have hparts := Path.parts_eq path
  rw [hsplit, ← List.append_assoc] at hparts
  rcases hfront with rfl | ⟨before, rfl⟩
  · obtain ⟨loc, hwalk⟩ := hrooted.walk_leading path (Path.pieces path.toList)
    rw [List.append_nil] at hparts
    exact ⟨_, loc, names, hparts, hwalk⟩
  · obtain ⟨loc, hwalk⟩ := h (Path.leading (Path.pieces path.toList) ++ before)
      (names.map .name) (by rw [hparts]; simp)
    rw [List.append_assoc] at hwalk
    exact ⟨_, loc, names, hparts, hwalk⟩

theorem Steady.join {w : Workspace} {base name : String} (h : w.Steady base)
    (hname : Path.IsName name) : w.Steady (Path.join base name) := by
  obtain ⟨front, loc, names, hparts, hwalk⟩ := h
  refine ⟨front, loc, names ++ [name], ?_, ?_⟩
  · rw [Path.parts_join base hname, hparts, List.map_append, List.append_assoc]
    rfl
  · rw [origin, Path.isAbsolute_join base hname, ← origin]
    exact hwalk

theorem Changes.steady {places : List Location} {w w' : Workspace} (hchanges : w.Changes places w')
    {path : String} (h : w.Steady path) : w'.Steady path := by
  obtain ⟨front, loc, names, hparts, hwalk⟩ := h
  refine ⟨front, loc, names, hparts, ?_⟩
  rw [origin_eq_of_directory hchanges.directory]
  exact hchanges.disk.walk_eq hwalk

/-- A steady path leads through directories that are there, and then straight to its end. -/
theorem Steady.directory_or_prefix {w : Workspace} {path : String} {loc : Location}
    (h : w.Steady path) (hpasses : w.Passes path loc) :
    (∃ mode, w.disk.get? loc = some (.directory mode)) ∨ loc <+: w.place path := by
  obtain ⟨front, last, names, hsplit, hwalk⟩ := h
  obtain ⟨parts, hparts, rfl⟩ := hpasses
  have hplace : w.place path = last ++ names := Steady.place_eq hsplit hwalk
  obtain ⟨rest, hrest⟩ := hparts
  rw [hsplit] at hrest
  rcases List.append_eq_append_iff.mp hrest with ⟨more, hfront, -⟩ | ⟨more, habove, hnames⟩
  · rw [hfront, Disk.walk_append] at hwalk
    obtain ⟨mid, hmid, hwalk⟩ := exists_of_bind_eq_ok hwalk
    rw [Disk.foldl_follow_of_walk hmid]
    cases more with
    | nil =>
        obtain rfl := Except.ok.inj hwalk
        exact Or.inr (hplace ▸ List.prefix_append _ _)
    | cons part more =>
        rcases hnode : w.disk.get? mid with _ | ⟨content, mode⟩ | mode
        · simp [Disk.walk, Disk.step, hnode] at hwalk
        · simp [Disk.walk, Disk.step, hnode] at hwalk
        · exact Or.inl ⟨mode, rfl⟩
  · obtain ⟨names', rest', rfl, rfl, -⟩ := List.map_eq_append_iff.mp hnames
    refine Or.inr ?_
    rw [habove, List.foldl_append, Disk.foldl_follow_of_walk hwalk, Disk.foldl_follow_names,
      hplace, ← List.append_assoc]
    exact List.prefix_append _ _

/-- One workspace comes from another by writing files at some places, and by making directories
only above these. -/
structure Grows (places : List Location) (before after : Workspace) : Prop
    extends Changes places before after where
  added : ∀ {loc}, after.disk.get? loc ≠ none →
    before.disk.get? loc ≠ none ∨ ∃ place ∈ places, loc <+: place

namespace Grows

variable {places more : List Location} {first second third : Workspace}

theorem refl (h : first.WellFormed) : Grows places first first := ⟨.refl h, Or.inl⟩

theorem trans (h : Grows places first second) (h' : Grows places second third) :
    Grows places first third := by
  refine ⟨h.toChanges.trans h'.toChanges, fun hloc => ?_⟩
  rcases h'.added hloc with hsecond | hplace
  · exact h.added hsecond
  · exact Or.inr hplace

theorem mono (h : Grows places first second) (hsub : places ⊆ more) :
    Grows more first second := by
  refine ⟨h.toChanges.mono hsub, fun hloc => ?_⟩
  rcases h.added hloc with hfirst | ⟨place, hmem, hprefix⟩
  · exact Or.inl hfirst
  · exact Or.inr ⟨place, hsub hmem, hprefix⟩

end Grows

theorem Keeps.grows {path : String} {w w' : Workspace}
    (h : w.Keeps [w.place path] (w.Passes path) w') (hchanges : w.Changes [w.place path] w')
    (hsteady : w.Steady path) : w.Grows [w.place path] w' := by
  refine ⟨hchanges, fun {loc} hloc => ?_⟩
  by_cases hplace : loc = w.place path
  · exact Or.inr ⟨_, List.mem_singleton_self _, hplace ▸ List.prefix_refl _⟩
  rcases h.node loc (by simpa using hplace) with hsame | ⟨hnone, -, hpasses⟩
  · exact Or.inl (hsame ▸ hloc)
  · rcases hsteady.directory_or_prefix hpasses with ⟨mode, hdir⟩ | hprefix
    · rw [hnone] at hdir
      cases hdir
    · exact Or.inr ⟨_, List.mem_singleton_self _, hprefix⟩

/-- A write along a steady path adds nothing but its file and directories above it. -/
theorem grows_replace {w : Workspace} (hw : w.WellFormed) {path : String} (hsteady : w.Steady path)
    (content : Content) : w.Grows [w.place path] (replace w path content).1 :=
  (keeps_replace w path content).grows (Writer.mayFail_replace.changes hw path content) hsteady

/-- What a steady path leads to after some writes was there before, unless it was made above one of
the files. -/
theorem Grows.exists_node {places : List Location} {w w' : Workspace} (hgrows : w.Grows places w')
    (hw : w.WellFormed) (hrooted : w.Rooted) {path : String} (hsteady : w.Steady path)
    (hfree : w.place path ∉ places)
    (hnew : ∀ place ∈ places, w.place path <+: place → w.disk.get? (w.place path) ≠ none)
    {n' : Node} (h : w'.node path = .ok n') : ∃ n, w.node path = .ok n := by
  obtain ⟨hlocate', hget'⟩ := exists_of_node h
  rw [hgrows.place_eq] at hget'
  have hthere : w.disk.get? (w.place path) ≠ none := by
    rcases hgrows.added (by rw [hget']; simp) with hold | ⟨place, hplace, hprefix⟩
    · exact hold
    · exact hnew place hplace hprefix
  obtain ⟨n, hget⟩ := Option.ne_none_iff_exists'.mp hthere
  have hkind : n'.isDirectory = n.isDirectory := by
    cases n with
    | directory mode =>
        rw [hgrows.disk.directory hget] at hget'
        obtain rfl := Option.some.inj hget'
        rfl
    | file content mode =>
        have hcontent := hgrows.disk.content?_eq hw.disk hfree
        rw [Disk.content?, Disk.content?, hget, hget'] at hcontent
        cases n' with
        | directory mode' => cases hcontent
        | file content' mode' => rfl
  have hwalk := hgrows.walk_steady hrooted hsteady hget
  have hlocate : w.locate path = .ok (w.place path) := by
    rw [← locate_eq_of_walk hwalk hget hget' hkind, hlocate', hgrows.place_eq]
  exact ⟨n, node_of_locate hlocate hget⟩

end Workspace

theorem Writer.MayFail.grows_of_success {write : Writer} {w w' : Workspace} {path : String}
    {content : Content} (hwrite : write.MayFail) (hw : w.WellFormed) (hsteady : w.Steady path)
    (h : write w path content = (w', none)) : w.Grows [w.place path] w' :=
  (hwrite.keeps_of_success hw h).grows (hwrite.changes_of_success hw h).1 hsteady

end Phrasebook
