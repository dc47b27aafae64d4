import Phrasebook.Disk.Workspace
import Phrasebook.Proofs.Path.Parts

/-!
Where a path leads.

A path that can be followed leads to a location that its text alone decides: the nodes on the way
can stop a walk, but not turn it. So two paths meet on every disk or on none.
-/

namespace Phrasebook

open Disk (Location)

namespace Disk

def follow (loc : Location) : Path.Part → Location
  | .root => []
  | .here => loc
  | .up => loc.dropLast
  | .name n => loc ++ [n]

/-- Whether a location is made of names. -/
def Location.IsNamed (loc : Location) : Prop := ∀ name ∈ loc, Path.IsName name

instance : DecidablePred Location.IsNamed := fun loc =>
  inferInstanceAs (Decidable (∀ name ∈ loc, Path.IsName name))

theorem follow_of_step {disk : Disk} {loc next : Location} {part : Path.Part}
    (h : disk.step loc part = .ok next) : follow loc part = next := by
  unfold step at h
  split at h
  · cases h
  · cases h
  · cases part with
    | root => exact Except.ok.inj h
    | here => exact Except.ok.inj h
    | up => exact Except.ok.inj h
    | name n =>
        simp only at h
        split at h
        · cases h
        · exact Except.ok.inj h

theorem foldl_follow_of_walk {disk : Disk} {loc last : Location} {parts : List Path.Part}
    (h : disk.walk loc parts = .ok last) : parts.foldl follow loc = last := by
  induction parts generalizing loc with
  | nil => exact Except.ok.inj h
  | cons part rest ih =>
      rw [walk] at h
      split at h
      · cases h
      · rename_i next hnext
        rw [List.foldl_cons, follow_of_step hnext]
        exact ih h

theorem isNamed_foldl_follow {loc : Location} {parts : List Path.Part} (hloc : loc.IsNamed)
    (hparts : ∀ name, .name name ∈ parts → Path.IsName name) :
    Location.IsNamed (parts.foldl follow loc) := by
  induction parts generalizing loc with
  | nil => exact hloc
  | cons part rest ih =>
      refine ih ?_ (fun name hname => hparts name (List.mem_cons_of_mem _ hname))
      intro name hname
      cases part with
      | root => cases hname
      | here => exact hloc name hname
      | up => exact hloc name ((List.dropLast_sublist loc).subset hname)
      | name n =>
          rcases List.mem_append.mp hname with hold | hnew
          · exact hloc name hold
          · rw [List.mem_singleton.mp hnew]
            exact hparts n (List.mem_cons_self ..)

end Disk

namespace Workspace

/-- The location that a path names, whatever is on the disk. -/
def place (w : Workspace) (path : String) : Location :=
  (Path.parts path).foldl Disk.follow (if Path.isAbsolute path then [] else w.directory)

theorem place_eq_of_directory {w w' : Workspace} (h : w'.directory = w.directory)
    (path : String) : w'.place path = w.place path := by
  rw [place, place, h]

theorem eq_place_of_locate {w : Workspace} {path : String} {loc : Location}
    (h : w.locate path = .ok loc) : loc = w.place path := by
  unfold locate at h
  split at h
  · cases h
  split at h
  · cases h
  split at h
  · cases h
  split at h
  · cases h
  rename_i last hlast
  have hplace : w.place path = last := Disk.foldl_follow_of_walk hlast
  rw [hplace]
  split at h
  · split at h
    · cases h
    · exact (Except.ok.inj h).symm
  · exact (Except.ok.inj h).symm

theorem isNamed_place {w : Workspace} (h : Location.IsNamed w.directory) (path : String) :
    Location.IsNamed (w.place path) := by
  refine Disk.isNamed_foldl_follow ?_ (fun _ => Path.isName_of_mem_parts)
  split
  · intro name hname
    cases hname
  · exact h

theorem place_join (w : Workspace) (base : String) {name : String} (hname : Path.IsName name) :
    w.place (Path.join base name) = w.place base ++ [name] := by
  rw [place, place, Path.parts_join base hname, Path.isAbsolute_join base hname,
    List.foldl_append]
  rfl

theorem place_foldl_join (w : Workspace) (base : String) {names : Location}
    (hnames : names.IsNamed) : w.place (names.foldl Path.join base) = w.place base ++ names := by
  induction names generalizing base with
  | nil => simp
  | cons name rest ih =>
      have hname : Path.IsName name := hnames name (List.mem_cons_self ..)
      have hrest : Location.IsNamed rest := fun n hn => hnames n (List.mem_cons_of_mem _ hn)
      rw [List.foldl_cons, ih _ hrest, place_join w base hname, List.append_assoc]
      rfl

end Workspace

end Phrasebook
