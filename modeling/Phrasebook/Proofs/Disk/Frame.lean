import Phrasebook.Proofs.Disk.Tree
import Phrasebook.Proofs.Path.Parents

/-!
What a write leaves alone, node by node.

Apart from the file itself, a write makes directories that its path leads through, and it does
nothing else, whether it succeeds or not. After it succeeded the path leads to the new file.
-/

namespace Phrasebook

open Disk (Content Location Node newDirectoryMode)

namespace Workspace

/-- The locations that a path leads through, whatever is on the disk. -/
def Passes (w : Workspace) (path : String) (loc : Location) : Prop :=
  ∃ front, front <+: Path.parts path ∧ front.foldl Disk.follow (w.origin path) = loc

theorem passes_eq_of_directory {w w' : Workspace} (h : w'.directory = w.directory)
    (path : String) : w'.Passes path = w.Passes path := by
  unfold Passes
  rw [origin, origin, h]

/-- A path leads through what a path with its first parts names. -/
theorem passes_of_prefix {w : Workspace} {path above : String}
    (hparts : Path.parts above <+: Path.parts path)
    (habsolute : Path.isAbsolute above = Path.isAbsolute path) :
    w.Passes path (w.place above) := by
  refine ⟨Path.parts above, hparts, ?_⟩
  rw [origin, ← habsolute, place]

/-- Every node is as it was, except at some places and where there was nothing and a directory was
made. -/
structure Keeps (places : List Location) (made : Location → Prop) (before after : Workspace) :
    Prop where
  directory : after.directory = before.directory
  node : ∀ loc ∉ places, after.disk.get? loc = before.disk.get? loc ∨
    before.disk.get? loc = none ∧
      after.disk.get? loc = some (.directory newDirectoryMode) ∧ made loc

namespace Keeps

variable {places more : List Location} {made made' : Location → Prop}
  {first second third : Workspace}

theorem refl (w : Workspace) : Keeps places made w w := ⟨rfl, fun _ _ => Or.inl rfl⟩

theorem trans (h : Keeps places made first second) (h' : Keeps places made second third) :
    Keeps places made first third := by
  refine ⟨h'.directory.trans h.directory, fun loc hloc => ?_⟩
  rcases h.node loc hloc with hsame | ⟨hnone, hdir, hmade⟩
  · rw [← hsame]
    exact h'.node loc hloc
  · rcases h'.node loc hloc with hsame | ⟨hnone', -, -⟩
    · exact Or.inr ⟨hnone, hsame.trans hdir, hmade⟩
    · rw [hdir] at hnone'
      cases hnone'

theorem mono (h : Keeps places made first second) (hsub : places ⊆ more)
    (himp : ∀ loc, made loc → made' loc) : Keeps more made' first second := by
  refine ⟨h.directory, fun loc hloc => ?_⟩
  rcases h.node loc (fun hmem => hloc (hsub hmem)) with hsame | ⟨hnone, hdir, hmade⟩
  · exact Or.inl hsame
  · exact Or.inr ⟨hnone, hdir, himp loc hmade⟩

end Keeps

theorem keeps_withNode (w : Workspace) (loc : Location) (node : Node) (made : Location → Prop) :
    Keeps [loc] made w (w.withNode loc node) := by
  refine ⟨rfl, fun other hother => Or.inl ?_⟩
  exact Disk.get?_set_of_ne w.disk (by simpa using hother) node

/-- The directory that all relative paths start from is never made: it has to be there to be
reached. -/
theorem keeps_of_makeDirectory {w w' : Workspace} {path : String}
    (h : w.makeDirectory path = .ok w') : path ≠ "." ∧ Keeps [] (· = w.place path) w w' := by
  unfold makeDirectory at h
  split at h
  · cases h
  rename_i loc hloc
  obtain rfl := eq_place_of_locate hloc
  split at h
  · cases h
  rename_i hfree
  obtain rfl := Except.ok.inj h
  have hnone : w.disk.get? (w.place path) = none := by simpa using hfree
  constructor
  · rintro rfl
    have hwalk : w.disk.step w.directory .here = .ok (w.place ".") := by
      rw [← Disk.step_singleton]
      exact walk_of_locate hloc
    have hhere : w.directory = w.place "." := Disk.follow_of_step hwalk
    rw [Disk.step, hhere, hnone] at hwalk
    cases hwalk
  · refine ⟨rfl, fun other _ => ?_⟩
    by_cases hother : other = w.place path
    · subst hother
      exact Or.inr ⟨hnone, Disk.get?_set_self w.disk (Disk.ne_root_of_get?_eq_none hnone) _, rfl⟩
    · exact Or.inl (Disk.get?_set_of_ne w.disk hother _)

/-- Making directories makes nothing but these, even if it fails halfway. -/
theorem keeps_makeAlong (w : Workspace) (paths : List String) :
    Keeps [] (fun loc => ∃ path ∈ paths, path ≠ "" ∧ path ≠ "." ∧ loc = w.place path) w
      (w.makeAlong paths).1 := by
  induction paths with
  | nil => exact .refl w
  | cons path above ih =>
      have habove : Keeps [] (fun loc => ∃ q ∈ path :: above, q ≠ "" ∧ q ≠ "." ∧ loc = w.place q)
          w (w.makeAlong above).1 :=
        ih.mono (fun _ hmem => hmem) fun loc ⟨q, hq, hrest⟩ =>
          ⟨q, List.mem_cons_of_mem _ hq, hrest⟩
      rw [makeAlong]
      split
      · exact .refl w
      rename_i hempty
      have hne : path ≠ "" := by simpa using hempty
      have hmake : ∀ {v v' : Workspace}, v.directory = w.directory →
          v.makeDirectory path = .ok v' →
          Keeps [] (fun loc => ∃ q ∈ path :: above, q ≠ "" ∧ q ≠ "." ∧ loc = w.place q) v v' := by
        intro v v' hv hmade
        obtain ⟨hhere, hkeeps⟩ := keeps_of_makeDirectory hmade
        refine hkeeps.mono (fun _ hmem => hmem) fun loc hloc => ?_
        exact ⟨path, List.mem_cons_self, hne, hhere, hloc.trans (place_eq_of_directory hv path)⟩
      split
      · rename_i w' hmade
        exact hmake rfl hmade
      · split
        · rename_i w' e hfailed
          rwa [hfailed] at habove
        · rename_i w' hdone
          rw [hdone] at habove
          split
          · rename_i w'' hmade
            exact habove.trans (hmake habove.directory hmade)
          · exact habove
      · exact .refl w

/-- The directories that a write may have to make: the one that all relative paths start from, and
those that begin like the path. -/
theorem prefix_of_mem_directories {path above : String}
    (h : above ∈ directoryOf path :: Path.parents (directoryOf path)) (hne : above ≠ "") :
    above = "." ∨
      Path.parts above <+: Path.parts path ∧ Path.isAbsolute above = Path.isAbsolute path := by
  have hhere : above ∈ "." :: Path.parents "." → above = "." := by
    intro hmem
    rcases List.mem_cons.mp hmem with heq | hmem
    · exact heq
    · exact absurd (List.mem_singleton.mp hmem) hne
  unfold directoryOf at h
  split at h
  · exact Or.inl (hhere h)
  rename_i directory hdirectory
  split at h
  · exact Or.inl (hhere h)
  rename_i hempty
  have hdir : directory ≠ "" := by simpa using hempty
  obtain ⟨hparts, habsolute⟩ := Path.prefix_of_mem_parents (List.mem_of_head? hdirectory) hdir
  rcases List.mem_cons.mp h with rfl | hmem
  · exact Or.inr ⟨hparts, habsolute⟩
  · obtain ⟨hparts', habsolute'⟩ := Path.prefix_of_mem_parents hmem hne
    exact Or.inr ⟨hparts'.trans hparts, habsolute'.trans habsolute⟩

theorem keeps_makeDirectories (w : Workspace) (path : String) :
    Keeps [] (w.Passes path) w (w.makeDirectories (directoryOf path)).1 := by
  refine (keeps_makeAlong w _).mono (fun _ hmem => hmem) ?_
  rintro loc ⟨above, habove, hne, hhere, rfl⟩
  rcases prefix_of_mem_directories habove hne with heq | ⟨hparts, habsolute⟩
  · exact absurd heq hhere
  · exact passes_of_prefix hparts habsolute

theorem exists_of_install {w w' : Workspace} {path : String} {content : Content}
    (h : w.install path content = .ok w') :
    w.locate path = .ok (w.place path) ∧ unfit? path = none ∧
      ∃ mode, w' = w.withNode (w.place path) (.file content mode) := by
  unfold install at h
  split at h
  · cases h
  · cases h
  rename_i loc hloc hfit
  obtain rfl := eq_place_of_locate hloc
  refine ⟨hloc, hfit, ?_⟩
  unfold putFile at h
  rw [hloc] at h
  simp only at h
  split at h
  · cases h
  · rename_i old mode hold
    exact ⟨mode, (Except.ok.inj h).symm⟩
  · exact ⟨_, (Except.ok.inj h).symm⟩

/-- A write changes no node but its file, and makes no directory but those on its way. -/
theorem keeps_replace (w : Workspace) (path : String) (content : Content) :
    Keeps [w.place path] (w.Passes path) w (replace w path content).1 := by
  have hmade := keeps_makeDirectories w path
  have hmade' : Keeps [w.place path] (w.Passes path) w (w.makeDirectories (directoryOf path)).1 :=
    hmade.mono (by simp) fun _ hloc => hloc
  unfold replace
  simp only
  split
  · rename_i made e hfailed
    rwa [hfailed] at hmade'
  · rename_i made hdone
    rw [hdone] at hmade hmade'
    split
    · exact hmade'
    · rename_i w' hinstall
      obtain ⟨-, -, mode, rfl⟩ := exists_of_install hinstall
      have hput := keeps_withNode made (made.place path) (.file content mode) (w.Passes path)
      rw [place_eq_of_directory hmade.directory] at hput ⊢
      exact hmade'.trans hput

theorem endsOpen_of_unfit? {path : String} (h : unfit? path = none) : endsOpen path = false := by
  unfold unfit? at h
  unfold endsOpen
  split
  · rename_i p q ps hpieces
    rw [hpieces] at h
    have hempty : p ≠ [] := by
      rintro rfl
      simp at h
    have hhere : p ≠ ['.'] := by
      rintro rfl
      simp at h
    simp [Path.isIdle, hempty, hhere]
  · rfl

/-- A path that does not ask for a directory leads on where a walk leads. -/
theorem locate_of_walk {w w' : Workspace} {path : String} {loc : Location}
    (h : w.locate path = .ok loc)
    (hwalk : w'.disk.walk (w'.origin path) (Path.parts path) = .ok loc)
    (hopen : endsOpen path = false) : w'.locate path = .ok loc := by
  unfold locate at h ⊢
  split at h
  · cases h
  rename_i hzero
  split at h
  · cases h
  rename_i hempty
  split at h
  · cases h
  rename_i hlong
  rw [if_neg hzero, if_neg hempty, if_neg hlong, ← origin, hwalk]
  simp only [hopen]
  split <;> rfl

/-- After a write the path leads to what was written. -/
theorem node_of_replace {w w' : Workspace} {path : String} {content : Content}
    (hw : w.WellFormed) (h : replace w path content = (w', none)) :
    ∃ mode, w'.node path = .ok (.file content mode) := by
  obtain ⟨hchanges, hcontent⟩ := changes_of_replace hw h
  obtain ⟨mode, hfile⟩ := exists_file_of_contentAt hcontent
  refine ⟨mode, node_of_locate ?_ hfile⟩
  unfold replace at h
  simp only at h
  split at h
  · simp at h
  rename_i made hmade
  have hmadeChanges := changes_makeAlong hw (directoryOf path :: Path.parents (directoryOf path))
  rw [← makeDirectories, hmade] at hmadeChanges
  have hmadeFormed := hmadeChanges.wellFormed hw
  split at h
  · simp at h
  rename_i w'' hinstall
  obtain rfl : w'' = w' := congrArg Prod.fst h
  obtain ⟨hlocate, hfit, -⟩ := exists_of_install hinstall
  obtain ⟨hput, -⟩ := changes_of_install hmadeFormed hinstall
  rw [hput.place_eq]
  refine locate_of_walk hlocate ?_ (endsOpen_of_unfit? hfit)
  rw [origin_eq_of_directory hput.directory]
  exact hput.disk.walk_eq (walk_of_locate hlocate)

end Workspace

namespace Writer.MayFail

variable {write : Writer} {w w' : Workspace} {path : String} {content : Content}

theorem keeps_of_success (hwrite : write.MayFail) (hw : w.WellFormed)
    (h : write w path content = (w', none)) : w.Keeps [w.place path] (w.Passes path) w' := by
  rcases hwrite w path content hw with hreplace | ⟨w'', e, hfailed, -⟩
  · have hkeeps := Workspace.keeps_replace w path content
    rwa [← hreplace, h] at hkeeps
  · rw [hfailed] at h
    simp at h

theorem node_of_success (hwrite : write.MayFail) (hw : w.WellFormed)
    (h : write w path content = (w', none)) :
    ∃ mode, w'.node path = .ok (.file content mode) := by
  rcases hwrite w path content hw with hreplace | ⟨w'', e, hfailed, -⟩
  · exact Workspace.node_of_replace hw (hreplace ▸ h)
  · rw [hfailed] at h
    simp at h

end Writer.MayFail

end Phrasebook
