import Phrasebook.Disk.Replace
import Phrasebook.Proofs.Disk.Contents

/-!
What a write can do.

A write that succeeds gives the path its content. A write that fails changes no file, though it may
have made directories. Both hold of every writer that sometimes fails where replacing a file would
have worked.
-/

namespace Phrasebook

open Disk (Content Location)

namespace Workspace

structure WellFormed (w : Workspace) : Prop where
  disk : w.disk.WellFormed
  directory : Location.IsNamed w.directory

/-- One workspace comes from another by writing files at some places and by making directories. -/
structure Changes (places : List Location) (before after : Workspace) : Prop where
  directory : after.directory = before.directory
  disk : Disk.Changes places before.disk after.disk

/-- What the file at the place of a path holds, whether the path can be followed or not. -/
def contentAt (w : Workspace) (path : String) : Option Content := w.disk.content? (w.place path)

namespace Changes

variable {places more : List Location} {first second third : Workspace}

theorem refl (h : first.WellFormed) : Changes places first first := ⟨rfl, .refl h.disk⟩

theorem trans (h : Changes places first second) (h' : Changes places second third) :
    Changes places first third :=
  ⟨h'.directory.trans h.directory, h.disk.trans h'.disk⟩

theorem mono (h : Changes places first second) (hsub : places ⊆ more) :
    Changes more first second :=
  ⟨h.directory, h.disk.mono hsub⟩

theorem wellFormed (h : Changes places first second) (hfirst : first.WellFormed) :
    second.WellFormed :=
  ⟨h.disk.wellFormed, h.directory ▸ hfirst.directory⟩

theorem place_eq (h : Changes places first second) (path : String) :
    second.place path = first.place path :=
  place_eq_of_directory h.directory path

theorem contentAt_eq (h : Changes places first second) (hfirst : first.WellFormed) {path : String}
    (hpath : first.place path ∉ places) : second.contentAt path = first.contentAt path := by
  rw [contentAt, contentAt, h.place_eq, h.disk.content?_eq hfirst.disk hpath]

end Changes

theorem contentAt_of_readText {w : Workspace} {path source : String}
    (h : w.readText path = .ok source) :
    w.contentAt path = some (.text source) := by
  unfold readText at h
  split at h
  · cases h
  · cases h
  · cases h
  rename_i text mode hnode
  obtain rfl := Except.ok.inj h
  unfold node at hnode
  split at hnode
  · cases hnode
  rename_i loc hloc
  split at hnode
  · cases hnode
  rename_i node hget
  obtain rfl := Except.ok.inj hnode
  obtain rfl := eq_place_of_locate hloc
  rw [contentAt, Disk.content?, hget]
  rfl

theorem changes_of_makeDirectory {w w' : Workspace} {path : String} (hw : w.WellFormed)
    (h : w.makeDirectory path = .ok w') : Changes [] w w' := by
  unfold makeDirectory at h
  split at h
  · cases h
  rename_i loc hloc
  split at h
  · cases h
  rename_i hfree
  cases h
  have hnamed : Location.IsNamed loc := eq_place_of_locate hloc ▸ isNamed_place hw.directory path
  exact ⟨rfl, Disk.changes_addDirectory hw.disk hnamed (by simpa using hfree) _⟩

/-- Making directories changes no file, even if it fails halfway. -/
theorem changes_makeAlong {w : Workspace} (hw : w.WellFormed) (paths : List String) :
    Changes [] w (w.makeAlong paths).1 := by
  induction paths with
  | nil => exact .refl hw
  | cons path above ih =>
      rw [makeAlong]
      split
      · exact .refl hw
      split
      · rename_i w' hmade
        exact changes_of_makeDirectory hw hmade
      · split
        · rename_i w' e habove
          rw [habove] at ih
          exact ih
        · rename_i w' habove
          rw [habove] at ih
          split
          · rename_i w'' hmade
            exact ih.trans (changes_of_makeDirectory (ih.wellFormed hw) hmade)
          · exact ih
      · exact .refl hw

theorem changes_of_putFile {w w' : Workspace} {path : String} {content : Content}
    (hw : w.WellFormed) (h : w.putFile path content = .ok w') :
    Changes [w.place path] w w' ∧ w'.contentAt path = some content := by
  unfold putFile at h
  split at h
  · cases h
  rename_i loc hloc
  obtain rfl := eq_place_of_locate hloc
  have hset : ∀ mode, (∀ m, w.disk.get? (w.place path) ≠ some (.directory m)) →
      Changes [w.place path] w (w.withNode (w.place path) (.file content mode)) ∧
        (w.withNode (w.place path) (.file content mode)).contentAt path = some content := by
    intro mode hfree
    have hroot : w.place path ≠ [] := fun e => hfree Disk.newDirectoryMode (by rw [e]; rfl)
    exact ⟨⟨rfl, Disk.changes_setFile hw.disk (isNamed_place hw.directory path) hfree content mode⟩,
      Disk.content?_set_file w.disk hroot content mode⟩
  split at h
  · cases h
  · rename_i old mode hold
    cases h
    exact hset mode (by simp [hold])
  · rename_i hnone
    cases h
    exact hset _ (by simp [hnone])

theorem changes_of_install {w w' : Workspace} {path : String} {content : Content}
    (hw : w.WellFormed) (h : w.install path content = .ok w') :
    Changes [w.place path] w w' ∧ w'.contentAt path = some content := by
  unfold install at h
  split at h
  · cases h
  · cases h
  · exact changes_of_putFile hw h

end Workspace

/-- A write that succeeded: nothing but the file at its path was changed. -/
theorem Workspace.changes_of_replace {w w' : Workspace} {path : String} {content : Content}
    (hw : w.WellFormed) (h : Workspace.replace w path content = (w', none)) :
    w.Changes [w.place path] w' ∧ w'.contentAt path = some content := by
  unfold replace at h
  simp only at h
  split at h
  · simp at h
  rename_i made hmade
  have hchanges : w.Changes [] made := by
    have hall := changes_makeAlong hw (directoryOf path :: Path.parents (directoryOf path))
    rwa [← makeDirectories, hmade] at hall
  split at h
  · simp at h
  rename_i w'' hinstall
  obtain rfl : w'' = w' := congrArg Prod.fst h
  obtain ⟨hwritten, hcontent⟩ := changes_of_install (hchanges.wellFormed hw) hinstall
  rw [hchanges.place_eq] at hwritten
  exact ⟨(hchanges.mono (by simp)).trans hwritten, hcontent⟩

/-- A write that failed: no file was changed. -/
theorem Workspace.changes_of_replace_failed {w w' : Workspace} {path : String} {content : Content}
    {e : WriteError} (hw : w.WellFormed) (h : Workspace.replace w path content = (w', some e)) :
    w.Changes [] w' := by
  have hmade := changes_makeAlong hw (directoryOf path :: Path.parents (directoryOf path))
  rw [← makeDirectories] at hmade
  unfold replace at h
  simp only at h
  split at h
  · rename_i made e' hfailed
    rw [hfailed] at hmade
    obtain rfl : made = w' := congrArg Prod.fst h
    exact hmade
  · rename_i made hdone
    rw [hdone] at hmade
    split at h
    · obtain rfl : made = w' := congrArg Prod.fst h
      exact hmade
    · simp at h

/-- A writer that replaces files and may fail at any of them. Where it fails it has changed no
file, though it may have made directories. -/
def Writer.MayFail (write : Writer) : Prop :=
  ∀ w path content, w.WellFormed →
    write w path content = Workspace.replace w path content ∨
      ∃ w' e, write w path content = (w', some e) ∧ w.Changes [] w'

theorem Writer.mayFail_replace : Writer.MayFail Workspace.replace := fun _ _ _ _ => Or.inl rfl

namespace Writer.MayFail

variable {write : Writer} {w w' : Workspace} {path : String} {content : Content}

theorem changes_of_success (hwrite : write.MayFail) (hw : w.WellFormed)
    (h : write w path content = (w', none)) :
    w.Changes [w.place path] w' ∧ w'.contentAt path = some content := by
  rcases hwrite w path content hw with hreplace | ⟨w'', e, hfailed, -⟩
  · exact Workspace.changes_of_replace hw (hreplace ▸ h)
  · rw [hfailed] at h
    simp at h

theorem changes_of_failure {e : WriteError} (hwrite : write.MayFail) (hw : w.WellFormed)
    (h : write w path content = (w', some e)) : w.Changes [] w' := by
  rcases hwrite w path content hw with hreplace | ⟨w'', e', hfailed, hchanges⟩
  · exact Workspace.changes_of_replace_failed hw (hreplace ▸ h)
  · rw [hfailed] at h
    obtain rfl : w'' = w' := congrArg Prod.fst h
    exact hchanges

/-- Whether it succeeds or not, a write changes no file but its own. -/
theorem changes (hwrite : write.MayFail) (hw : w.WellFormed) (path : String) (content : Content) :
    w.Changes [w.place path] (write w path content).1 := by
  rcases h : write w path content with ⟨w', _ | e⟩
  · exact (hwrite.changes_of_success hw h).1
  · exact (hwrite.changes_of_failure hw h).mono (by simp)

end Writer.MayFail

end Phrasebook
