import Phrasebook.Proofs.Disk.Write

/-!
Following a path after files were written and directories were made.

A walk needs nothing but directories, and these stay. So a path that leads to a directory leads
there ever after.
-/

namespace Phrasebook

open Disk (Location)

namespace Disk

theorem walk_append (disk : Disk) (loc : Location) (parts more : List Path.Part) :
    disk.walk loc (parts ++ more) = (disk.walk loc parts).bind fun next => disk.walk next more := by
  induction parts generalizing loc with
  | nil => rfl
  | cons part rest ih =>
      simp only [List.cons_append, walk]
      cases disk.step loc part with
      | error e => rfl
      | ok next => exact ih next

theorem step_singleton (disk : Disk) (loc : Location) (part : Path.Part) :
    disk.walk loc [part] = disk.step loc part := by
  rw [walk]
  cases disk.step loc part <;> rfl

theorem exists_directory_of_step {disk : Disk} {loc next : Location} {part : Path.Part}
    (h : disk.step loc part = .ok next) : ∃ mode, disk.get? loc = some (.directory mode) := by
  rcases hnode : disk.get? loc with _ | ⟨content, mode⟩ | mode
  · simp [step, hnode] at h
  · simp [step, hnode] at h
  · exact ⟨mode, rfl⟩

theorem step_eq_of_directory {disk disk' : Disk} {loc : Location} {mode mode' : Nat}
    (h : disk.get? loc = some (.directory mode)) (h' : disk'.get? loc = some (.directory mode'))
    (part : Path.Part) : disk'.step loc part = disk.step loc part := by
  unfold step
  rw [h, h']

/-- A walk goes as it went wherever the directories are as they were. -/
theorem walk_of_directories {disk disk' : Disk}
    (hdirs : ∀ {loc mode}, disk.get? loc = some (.directory mode) →
      disk'.get? loc = some (.directory mode))
    {loc last : Location} {parts : List Path.Part} (h : disk.walk loc parts = .ok last) :
    disk'.walk loc parts = .ok last := by
  induction parts generalizing loc with
  | nil => exact h
  | cons part rest ih =>
      rw [walk] at h ⊢
      rcases hnode : disk.get? loc with _ | ⟨content, mode⟩ | mode
      · simp [step, hnode] at h
      · simp [step, hnode] at h
      · rw [step_eq_of_directory hnode (hdirs hnode)]
        cases hstep : disk.step loc part with
        | error e => simp [hstep] at h
        | ok next =>
            rw [hstep] at h
            exact ih h

theorem Changes.walk_eq {places : List Location} {disk disk' : Disk}
    (hchanges : Changes places disk disk') {loc last : Location} {parts : List Path.Part}
    (h : disk.walk loc parts = .ok last) : disk'.walk loc parts = .ok last :=
  walk_of_directories hchanges.directory h

end Disk

namespace Workspace

/-- Where a walk along a path starts. -/
def origin (w : Workspace) (path : String) : Location :=
  if Path.isAbsolute path then [] else w.directory

theorem walk_of_locate {w : Workspace} {path : String} {loc : Location}
    (h : w.locate path = .ok loc) :
    w.disk.walk (w.origin path) (Path.parts path) = .ok loc := by
  have hloc : loc = w.place path := eq_place_of_locate h
  unfold locate at h
  split at h
  · cases h
  split at h
  · cases h
  split at h
  · cases h
  split at h
  · cases h
  rename_i last hlast
  have hplace : w.place path = last := Disk.foldl_follow_of_walk hlast
  rw [origin, hlast, hloc, hplace]

/-- A directory that lies in a directory is found in the same way, or missed for the same reason,
after more was written. -/
theorem Changes.locate_join {places : List Location} {w w' : Workspace}
    (hchanges : w.Changes places w') {base name : String} {loc : Location} {mode mode' : Nat}
    (hname : Path.IsName name) (hbase : w.locate base = .ok loc)
    (hloc : w.disk.get? loc = some (.directory mode))
    (hdir : w.disk.get? (loc ++ [name]) = some (.directory mode')) :
    w'.locate (Path.join base name) = w.locate (Path.join base name) := by
  have hwalk := walk_of_locate hbase
  have hwalk' := hchanges.disk.walk_eq hwalk
  have hstep := Disk.step_eq_of_directory hloc (hchanges.disk.directory hloc) (.name name)
  have hdir' := hchanges.disk.directory hdir
  rw [origin] at hwalk hwalk'
  unfold locate
  rw [Path.parts_join base hname, Path.isAbsolute_join base hname, Disk.walk_append,
    Disk.walk_append, hchanges.directory, hwalk, hwalk']
  simp only [Except.bind, Disk.step_singleton, hstep]
  cases hnext : w.disk.step loc (.name name) with
  | error e => rfl
  | ok next =>
      have hplace : loc ++ [name] = next := Disk.follow_of_step hnext
      simp only [← hplace, hdir, hdir']

end Workspace

end Phrasebook
