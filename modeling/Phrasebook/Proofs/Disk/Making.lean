import Phrasebook.Proofs.Disk.Growth
import Phrasebook.Proofs.Path.Ladder

/-!
How missing directories are made.

A directory is tried first. Only if the way to it is missing, those above it are made and it is
tried again. What is made stands in a directory, so a disk that is a tree stays one.
-/

namespace Phrasebook

open Disk (Content Location Node newDirectoryMode)

namespace Workspace

/-- How far a walk along a path comes. -/
def route (w : Workspace) (path : String) : Except AccessError Location :=
  w.disk.walk (w.origin path) (Path.parts path)

/-- A path whose text can be looked up at all. -/
structure Readable (path : String) : Prop where
  zero : path.toList.contains (Char.ofNat 0) = false
  nonempty : path ≠ ""
  short : path.utf8ByteSize ≤ maxPathLength

theorem locate_of_not_readable {path : String} (h : ¬ Readable path) (w w' : Workspace) :
    w'.locate path = w.locate path ∧ ∃ e, w.locate path = .error e := by
  unfold locate
  split
  · exact ⟨rfl, _, rfl⟩
  rename_i hzero
  split
  · exact ⟨rfl, _, rfl⟩
  rename_i hempty
  split
  · exact ⟨rfl, _, rfl⟩
  rename_i hlong
  exact absurd ⟨by simpa using hzero, by simpa using hempty, by simpa using hlong⟩ h

theorem locate_of_not_readable_ne {path : String} (h : ¬ Readable path) (hne : path ≠ "")
    (w : Workspace) : w.locate path ≠ .error .missing := by
  have hempty : path.isEmpty = false := by simpa using hne
  unfold locate
  split
  · simp
  rename_i hzero
  rw [hempty, if_neg Bool.false_ne_true]
  split
  · simp
  rename_i hlong
  exact absurd ⟨by simpa using hzero, hne, by simpa using hlong⟩ h

section Locate

variable {w : Workspace} {path : String} {loc : Location}

theorem locate_of_route_error (h : Readable path) {e : AccessError}
    (hroute : w.route path = .error e) : w.locate path = .error e := by
  have hempty : path.isEmpty = false := by simpa using h.nonempty
  unfold locate
  rw [h.zero, hempty, if_neg Bool.false_ne_true, if_neg Bool.false_ne_true,
    if_neg (Nat.not_lt.mpr h.short), ← origin, ← route, hroute]

theorem locate_of_route (h : Readable path) (hroute : w.route path = .ok loc)
    (hfile : ∀ content mode, w.disk.get? loc = some (.file content mode) → endsOpen path = false) :
    w.locate path = .ok loc := by
  have hempty : path.isEmpty = false := by simpa using h.nonempty
  unfold locate
  rw [h.zero, hempty, if_neg Bool.false_ne_true, if_neg Bool.false_ne_true,
    if_neg (Nat.not_lt.mpr h.short), ← origin, ← route, hroute]
  simp only
  split
  · rename_i content mode hnode
    rw [hfile content mode hnode, if_neg Bool.false_ne_true]
  · rfl

theorem locate_of_route_file (h : Readable path) (hroute : w.route path = .ok loc)
    {content : Content} {mode : Nat} (hfile : w.disk.get? loc = some (.file content mode))
    (hopen : endsOpen path = true) : w.locate path = .error .notDirectory := by
  have hempty : path.isEmpty = false := by simpa using h.nonempty
  unfold locate
  rw [h.zero, hempty, if_neg Bool.false_ne_true, if_neg Bool.false_ne_true,
    if_neg (Nat.not_lt.mpr h.short), ← origin, ← route, hroute]
  simp only [hfile, hopen, if_true]

theorem readable_of_locate (h : w.locate path = .ok loc) : Readable path := by
  refine Classical.byContradiction fun hnot => ?_
  obtain ⟨-, e, he⟩ := locate_of_not_readable hnot w w
  rw [h] at he
  cases he

/-- What a walk does not find is missing. -/
theorem route_of_locate_missing (hne : path ≠ "") (h : w.locate path = .error .missing) :
    Readable path ∧ w.route path = .error .missing := by
  have hreadable : Readable path :=
    Classical.byContradiction fun hnot => locate_of_not_readable_ne hnot hne w h
  refine ⟨hreadable, ?_⟩
  cases hroute : w.route path with
  | error e =>
      rw [locate_of_route_error hreadable hroute] at h
      exact h
  | ok loc =>
      by_cases hopen : endsOpen path = true
      · rcases hnode : w.disk.get? loc with _ | ⟨content, mode⟩ | mode
        · rw [locate_of_route hreadable hroute (by simp [hnode])] at h
          cases h
        · rw [locate_of_route_file hreadable hroute hnode hopen] at h
          cases h
        · rw [locate_of_route hreadable hroute (by simp [hnode])] at h
          cases h
      · rw [locate_of_route hreadable hroute fun _ _ _ => by simpa using hopen] at h
        cases h

end Locate

/-- Makes a directory, or finds it. -/
def tryDirectory (w : Workspace) (path : String) : Workspace × Option AccessError :=
  match w.makeDirectory path with
  | .ok w' => (w', none)
  | .error e => (w, if w.hasDirectory path then none else some e)

section Try

variable {w w' : Workspace} {path : String} {loc : Location} {e : AccessError}

theorem tryDirectory_of_error (h : w.locate path = .error e) :
    w.tryDirectory path = (w, some e) := by
  simp [tryDirectory, makeDirectory, hasDirectory, node, h]

theorem tryDirectory_of_none (h : w.locate path = .ok loc) (hnone : w.disk.get? loc = none) :
    w.tryDirectory path = (w.withNode loc (.directory newDirectoryMode), none) := by
  simp [tryDirectory, makeDirectory, h, hnone]

theorem tryDirectory_of_directory {mode : Nat} (h : w.locate path = .ok loc)
    (hdir : w.disk.get? loc = some (.directory mode)) : w.tryDirectory path = (w, none) := by
  simp [tryDirectory, makeDirectory, hasDirectory, node, Node.isDirectory, h, hdir]

theorem tryDirectory_of_file {content : Content} {mode : Nat} (h : w.locate path = .ok loc)
    (hfile : w.disk.get? loc = some (.file content mode)) :
    w.tryDirectory path = (w, some .alreadyThere) := by
  simp [tryDirectory, makeDirectory, hasDirectory, node, Node.isDirectory, h, hfile]

theorem makeAlong_of_found {above : List String} (hne : path ≠ "")
    (h : w.locate path ≠ .error .missing) :
    w.makeAlong (path :: above) = w.tryDirectory path := by
  have hempty : path.isEmpty = false := by simpa using hne
  have hmake : w.makeDirectory path ≠ .error .missing := by
    unfold makeDirectory
    split
    · rename_i e he
      rintro hmissing
      obtain rfl := Except.error.inj hmissing
      exact h he
    · split <;> simp
  rw [makeAlong, hempty, if_neg Bool.false_ne_true, tryDirectory]
  split
  · rename_i hmade
    rw [hmade]
  · rename_i hmissing
    exact absurd hmissing hmake
  · rename_i hfailed
    rw [hfailed]

theorem makeAlong_of_failed {above : List String} (hne : path ≠ "")
    (h : w.locate path = .error .missing) (habove : w.makeAlong above = (w', some e)) :
    w.makeAlong (path :: above) = (w', some e) := by
  have hempty : path.isEmpty = false := by simpa using hne
  simp [makeAlong, makeDirectory, hempty, h, habove]

theorem makeAlong_of_made {above : List String} (hne : path ≠ "")
    (h : w.locate path = .error .missing) (habove : w.makeAlong above = (w', none)) :
    w.makeAlong (path :: above) = w'.tryDirectory path := by
  have hempty : path.isEmpty = false := by simpa using hne
  simp only [makeAlong, hempty, makeDirectory, h, habove, tryDirectory]
  rfl

/-- A directory that was made or found can be reached. -/
theorem exists_directory_of_tryDirectory (hw : w.WellFormed)
    (h : w.tryDirectory path = (w', none)) :
    ∃ loc mode, w'.route path = .ok loc ∧ w'.disk.get? loc = some (.directory mode) := by
  cases hlocate : w.locate path with
  | error e =>
      rw [tryDirectory_of_error hlocate] at h
      simp at h
  | ok loc =>
      have hroute : w.route path = .ok loc := walk_of_locate hlocate
      rcases hnode : w.disk.get? loc with _ | ⟨content, mode⟩ | mode
      · have hmade : w.makeDirectory path =
            .ok (w.withNode loc (.directory newDirectoryMode)) := by
          simp [makeDirectory, hlocate, hnode]
        rw [tryDirectory_of_none hlocate hnode] at h
        obtain rfl := congrArg Prod.fst h
        have hchanges := changes_of_makeDirectory hw hmade
        refine ⟨loc, _, ?_, Disk.get?_set_self w.disk (Disk.ne_root_of_get?_eq_none hnode) _⟩
        exact hchanges.disk.walk_eq hroute
      · rw [tryDirectory_of_file hlocate hnode] at h
        simp at h
      · rw [tryDirectory_of_directory hlocate hnode] at h
        obtain rfl := congrArg Prod.fst h
        exact ⟨loc, mode, hroute, hnode⟩

/-- After directories were made, the first of them can be reached. -/
theorem exists_directory_of_makeAlong (hw : w.WellFormed) (hrooted : w.Rooted)
    {above : List String} (h : w.makeAlong (path :: above) = (w', none)) :
    ∃ loc mode, w'.route path = .ok loc ∧ w'.disk.get? loc = some (.directory mode) := by
  by_cases hne : path = ""
  · subst hne
    obtain rfl : w = w' := congrArg Prod.fst h
    obtain ⟨mode, hdir⟩ := hrooted.directory
    exact ⟨w.directory, mode, rfl, hdir⟩
  by_cases hlocate : w.locate path = .error .missing
  · rcases habove : w.makeAlong above with ⟨made, _ | e⟩
    · rw [makeAlong_of_made hne hlocate habove] at h
      have hchanges := changes_makeAlong hw above
      rw [habove] at hchanges
      exact exists_directory_of_tryDirectory (hchanges.wellFormed hw) h
    · rw [makeAlong_of_failed hne hlocate habove] at h
      simp at h
  · rw [makeAlong_of_found hne hlocate] at h
    exact exists_directory_of_tryDirectory hw h

/-- A path that leads a part further goes on from where the other one ends. -/
theorem route_concat (w : Workspace) {above : String} {part : Path.Part}
    (habsolute : Path.isAbsolute path = Path.isAbsolute above)
    (hparts : Path.parts path = Path.parts above ++ [part]) :
    w.route path = (w.route above).bind fun loc => w.disk.step loc part := by
  rw [route, hparts, Disk.walk_append, origin, habsolute, ← origin, ← route]
  simp only [Disk.step_singleton]

theorem route_of_extends (w : Workspace) {above : String} (h : Path.Extends path above) :
    ∃ part, w.route path = (w.route above).bind fun loc => w.disk.step loc part := by
  obtain ⟨part, hparts⟩ := h.parts
  exact ⟨part, w.route_concat h.absolute hparts⟩

theorem route_join (w : Workspace) (base : String) {name : String} (hname : Path.IsName name) :
    w.route (Path.join base name) =
      (w.route base).bind fun loc => w.disk.step loc (.name name) :=
  w.route_concat (Path.isAbsolute_join base hname) (Path.parts_join base hname)

/-- A name can only be reached in a directory. -/
theorem exists_of_route_join {base name : String} (hname : Path.IsName name)
    (h : w.route (Path.join base name) = .ok loc) :
    w.route base = .ok (w.place base) ∧
      ∃ mode, w.disk.get? (w.place base) = some (.directory mode) := by
  rw [route_join w base hname] at h
  obtain ⟨mid, hmid, hstep⟩ := exists_of_bind_eq_ok h
  obtain rfl : w.place base = mid := Disk.foldl_follow_of_walk hmid
  exact ⟨hmid, Disk.exists_directory_of_step hstep⟩

theorem locate_eq_of_route {w' : Workspace} (hroute : w'.route path = w.route path)
    (hnode : ∀ loc, w.route path = .ok loc → w'.disk.get? loc = w.disk.get? loc) :
    w'.locate path = w.locate path := by
  unfold locate
  rw [← origin, ← origin, ← route, ← route, hroute]
  cases hwalk : w.route path with
  | error e => rfl
  | ok loc => simp only [hnode loc hwalk]

theorem step_ne_missing {disk : Disk} {mode : Nat} (h : disk.get? loc = some (.directory mode))
    (part : Path.Part) : disk.step loc part ≠ .error .missing := by
  unfold Disk.step
  rw [h]
  cases part with
  | root => simp
  | here => simp
  | up => simp
  | name n =>
      simp only
      split <;> simp

end Try

section Rooted

variable {w w' : Workspace} {path : String} {loc : Location}

/-- What a path leads to is a directory, or it can stand in one. -/
theorem Rooted.exists_parent (h : w.Rooted) (hroute : w.route path = .ok loc)
    (hfree : ∀ mode, w.disk.get? loc ≠ some (.directory mode)) :
    ∃ front name mode, loc = front ++ [name] ∧ w.disk.get? front = some (.directory mode) := by
  have hroot : loc ≠ [] := by
    rintro rfl
    exact hfree _ rfl
  obtain ⟨omode, horigin⟩ := h.origin path
  rcases List.eq_nil_or_concat (Path.parts path) with hparts | ⟨front, part, hparts⟩
  · rw [route, hparts] at hroute
    obtain rfl := Except.ok.inj hroute
    exact absurd horigin (hfree omode)
  rw [route, hparts, List.concat_eq_append, Disk.walk_append] at hroute
  obtain ⟨mid, hmid, hstep⟩ := exists_of_bind_eq_ok hroute
  rw [Disk.step_singleton] at hstep
  have hlast := Disk.follow_of_step hstep
  obtain ⟨mode, hnode⟩ := Disk.exists_directory_of_step hstep
  cases part with
  | root => exact absurd hlast.symm hroot
  | here =>
      obtain rfl : mid = loc := hlast
      exact absurd hnode (hfree mode)
  | up =>
      obtain rfl : mid.dropLast = loc := hlast
      have hmidne : mid ≠ [] := by
        rintro rfl
        exact hroot rfl
      rw [← List.dropLast_concat_getLast hmidne] at hnode
      obtain ⟨pmode, hparent⟩ := h.parent hnode
      exact absurd hparent (hfree pmode)
  | name n => exact ⟨mid, n, mode, hlast.symm, hnode⟩

theorem Rooted.withNode (h : w.Rooted) (hroute : w.route path = .ok loc)
    (hfree : ∀ mode, w.disk.get? loc ≠ some (.directory mode)) (node : Node) :
    (w.withNode loc node).Rooted := by
  obtain ⟨front, name, mode, rfl, hfront⟩ := h.exists_parent hroute hfree
  have hkeep : ∀ {other mode}, w.disk.get? other = some (.directory mode) →
      (w.withNode (front ++ [name]) node).disk.get? other = some (.directory mode) := by
    intro other mode hother
    have hne : other ≠ front ++ [name] := by
      rintro rfl
      exact hfree mode hother
    exact (Disk.get?_set_of_ne w.disk hne node).trans hother
  constructor
  · intro other last found hfound
    by_cases hsame : other ++ [last] = front ++ [name]
    · obtain ⟨rfl, -⟩ := List.append_inj' hsame rfl
      exact ⟨mode, hkeep hfront⟩
    · rw [Workspace.withNode, Disk.get?_set_of_ne w.disk hsame] at hfound
      obtain ⟨pmode, hparent⟩ := h.parent hfound
      exact ⟨pmode, hkeep hparent⟩
  · obtain ⟨dmode, hdirectory⟩ := h.directory
    exact ⟨dmode, hkeep hdirectory⟩

end Rooted

section Replace

variable {w made w' : Workspace} {path : String} {content : Content} {e : AccessError}

theorem replace_of_failed (h : w.makeDirectories (directoryOf path) = (made, some e)) :
    replace w path content = (made, some (.directory (directoryOf path) e)) := by
  unfold replace
  simp only [h]

theorem replace_of_install_error (h : w.makeDirectories (directoryOf path) = (made, none))
    (hinstall : made.install path content = .error e) :
    replace w path content = (made, some (.target path e)) := by
  unfold replace
  simp only [h, hinstall]

theorem replace_of_install (h : w.makeDirectories (directoryOf path) = (made, none))
    (hinstall : made.install path content = .ok w') : replace w path content = (w', none) := by
  unfold replace
  simp only [h, hinstall]

end Replace

/-- The directories that a write may have to make stand above each other. -/
theorem ladder_directoryOf (path : String) :
    Path.Ladder (directoryOf path :: Path.parents (directoryOf path)) := by
  unfold directoryOf
  split
  · exact Path.ladder_here
  rename_i directory hdirectory
  split
  · exact Path.ladder_here
  rename_i hempty
  exact Path.ladder_of_mem_parents (List.mem_of_head? hdirectory) (by simpa using hempty)

theorem locate_ne_missing_of_extends {w : Workspace} {path above : String} {loc : Location}
    {mode : Nat} (hextends : Path.Extends path above) (hroute : w.route above = .ok loc)
    (hdir : w.disk.get? loc = some (.directory mode)) : w.locate path ≠ .error .missing := by
  intro hmissing
  obtain ⟨-, hpath⟩ := route_of_locate_missing hextends.ne_empty hmissing
  obtain ⟨part, hstep⟩ := route_of_extends w hextends
  rw [hroute, hpath] at hstep
  exact step_ne_missing hdir part hstep.symm

/-- A file whose directory is there is not out of reach because something is missing. -/
theorem locate_ne_missing_of_directoryOf {w : Workspace} {path : String} {loc : Location}
    {mode : Nat} (hne : path ≠ "") (hroute : w.route (directoryOf path) = .ok loc)
    (hdir : w.disk.get? loc = some (.directory mode)) : w.locate path ≠ .error .missing := by
  have hhere : directoryOf path = "." →
      ∃ mode, w.disk.get? w.directory = some (.directory mode) := by
    intro heq
    rw [heq] at hroute
    have hstep : w.disk.walk w.directory [.here] = .ok loc := hroute
    rw [Disk.step_singleton] at hstep
    exact Disk.exists_directory_of_step hstep
  rcases hparents : Path.parents path with _ | ⟨above, rest⟩
  · obtain ⟨dmode, hdirectory⟩ := hhere (by simp [directoryOf, Path.parent?, hparents])
    obtain ⟨omode, horigin⟩ : ∃ mode, w.disk.get? (w.origin path) = some (.directory mode) := by
      unfold origin
      split
      · exact ⟨_, rfl⟩
      · exact ⟨dmode, hdirectory⟩
    intro hmissing
    obtain ⟨-, hpath⟩ := route_of_locate_missing hne hmissing
    rw [route, Path.parts_of_parents_eq_nil hne hparents, Disk.step_singleton] at hpath
    exact step_ne_missing horigin .root hpath
  · have hextends := Path.extends_parent hne hparents
    by_cases habove : above = ""
    · subst habove
      obtain ⟨dmode, hdirectory⟩ := hhere (by simp [directoryOf, Path.parent?, hparents])
      exact locate_ne_missing_of_extends hextends rfl hdirectory
    · have hdirectoryOf : directoryOf path = above := by
        simp [directoryOf, Path.parent?, hparents, habove]
      rw [hdirectoryOf] at hroute
      exact locate_ne_missing_of_extends hextends hroute hdir

/-- Once its directory was made, a file is not out of reach because something is missing. -/
theorem locate_ne_missing_of_makeDirectories {w w' : Workspace} {path : String} (hw : w.WellFormed)
    (hrooted : w.Rooted) (hne : path ≠ "")
    (h : w.makeDirectories (directoryOf path) = (w', none)) :
    w'.locate path ≠ .error .missing := by
  obtain ⟨loc, mode, hroute, hdir⟩ := exists_directory_of_makeAlong hw hrooted h
  exact locate_ne_missing_of_directoryOf hne hroute hdir

end Workspace

end Phrasebook
