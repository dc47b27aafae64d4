import Phrasebook.Proofs.Disk.Trail

/-!
Writing a file with what it holds.

The directory of a file that is there is there as well, so nothing has to be made for the write. The
file keeps its content and its permissions, and the whole workspace is as it was.
-/

namespace Phrasebook

open Disk (Content Location Node)

namespace Path

theorem intercalate_pieces (cs : List Char) : ['/'].intercalate (pieces cs) = cs := by
  induction cs with
  | nil => rfl
  | cons c cs ih =>
      obtain ⟨p, ps, hp⟩ := List.exists_cons_of_ne_nil (pieces_ne_nil cs)
      rw [hp] at ih
      by_cases hc : c = '/'
      · rw [pieces, if_pos hc, hp, List.intercalate_cons_cons, ih, hc]
        rfl
      · rw [pieces, if_neg hc, hp]
        cases ps with
        | nil => simpa using ih
        | cons q ps =>
            simp only [List.intercalate_cons_cons] at ih ⊢
            rw [List.cons_append, List.cons_append, ih]

theorem ofPieces_pieces {path : String} (hne : path ≠ "") :
    ofPieces (pieces path.toList) = path := by
  have hroot := pieces_ne_singleton_nil (mt String.toList_eq_nil_iff.mp hne)
  rw [← String.toList_inj, toList_ofPieces hroot, intercalate_pieces]

/-- A text begins with the text of each directory above it. -/
theorem prefix_text_of_mem_parents {path above : String} (h : above ∈ parents path)
    (hne : above ≠ "") : above.toList <+: path.toList := by
  obtain ⟨ps, hps, rfl⟩ := exists_of_mem_parents h hne
  obtain ⟨hpsne, more, hmore⟩ := suffix_of_mem_shortened (List.mem_of_mem_tail hps)
  have hpath : path ≠ "" := by
    rintro rfl
    cases hps
  have hsplit : pieces path.toList = ps.reverse ++ more.reverse := by
    rw [← List.reverse_append, hmore, List.reverse_reverse]
  have htext : path = ofPieces (ps.reverse ++ more.reverse) := by
    rw [← hsplit, ofPieces_pieces hpath]
  rw [htext]
  by_cases hnone : more = []
  · simp [hnone]
  · apply prefix_ofPieces
    · simpa using hpsne
    · simpa using hnone

end Path

theorem Disk.set_of_get? {disk : Disk} {loc : Location} {node : Node} (hroot : loc ≠ [])
    (h : disk.get? loc = some node) : disk.set loc node = disk := by
  obtain ⟨nodes⟩ := disk
  rw [get?, if_neg hroot] at h
  show (⟨setNode loc node nodes⟩ : Disk) = ⟨nodes⟩
  congr 1
  induction nodes with
  | nil => cases h
  | cons entry nodes ih =>
      obtain ⟨other, found⟩ := entry
      by_cases hother : other = loc
      · subst hother
        simp only [List.lookup_cons, BEq.rfl, Option.some.injEq] at h
        rw [setNode, if_pos rfl, h]
      · have hne : (loc == other) = false := by simpa using Ne.symm hother
        rw [List.lookup_cons, hne] at h
        rw [setNode, if_neg hother, ih h]

namespace Workspace

variable {w w' : Workspace} {path above : String} {content : Content} {mode : Nat}

/-- A path can only be reached through the directory above it. -/
theorem exists_of_route_extends {loc : Location} (hextends : Path.Extends path above)
    (hroute : w.route path = .ok loc) :
    ∃ mid mode, w.route above = .ok mid ∧ w.disk.get? mid = some (.directory mode) := by
  obtain ⟨part, hpart⟩ := route_of_extends w hextends
  rw [hroute] at hpart
  obtain ⟨mid, hmid, hstep⟩ := exists_of_bind_eq_ok hpart.symm
  obtain ⟨mode, hmode⟩ := Disk.exists_directory_of_step hstep
  exact ⟨mid, mode, hmid, hmode⟩

theorem makeDirectories_of_route {loc : Location} (hreadable : Readable path)
    (hroute : w.route path = .ok loc) (hdir : w.disk.get? loc = some (.directory mode)) :
    w.makeDirectories path = (w, none) := by
  have hlocate : w.locate path = .ok loc := by
    apply locate_of_route hreadable hroute
    intro content mode hfile
    rw [hdir] at hfile
    cases hfile
  rw [makeDirectories, makeAlong_of_found hreadable.nonempty (by simp [hlocate]),
    tryDirectory_of_directory hlocate hdir]

/-- Nothing has to be made for a file that is there. -/
theorem makeDirectories_of_node (hnode : w.node path = .ok (.file content mode)) :
    w.makeDirectories (directoryOf path) = (w, none) := by
  obtain ⟨hlocate, hfile⟩ := exists_of_node hnode
  have hreadable := readable_of_locate hlocate
  have hroute : w.route path = .ok (w.place path) := walk_of_locate hlocate
  rcases hparents : Path.parents path with _ | ⟨above, rest⟩
  · -- The root is a directory, so it is not the file.
    rw [route, Path.parts_of_parents_eq_nil hreadable.nonempty hparents,
      Disk.step_singleton] at hroute
    have hroot : [] = w.place path := Disk.follow_of_step hroute
    rw [← hroot] at hfile
    cases hfile
  · obtain ⟨mid, dmode, hmid, hdir⟩ :=
      exists_of_route_extends (Path.extends_parent hreadable.nonempty hparents) hroute
    by_cases habove : above = ""
    · subst habove
      have hhere : directoryOf path = "." := by simp [directoryOf, Path.parent?, hparents]
      obtain rfl : w.directory = mid := Except.ok.inj hmid
      have hstay : w.route "." = .ok w.directory := by
        show w.disk.walk w.directory [.here] = .ok w.directory
        simp [Disk.step_singleton, Disk.step, hdir]
      rw [hhere]
      exact makeDirectories_of_route ⟨by decide, by decide, by decide⟩ hstay hdir
    · have hdirectoryOf : directoryOf path = above := by
        simp [directoryOf, Path.parent?, hparents, habove]
      have htext := Path.prefix_text_of_mem_parents (hparents ▸ List.mem_cons_self) habove
      rw [hdirectoryOf]
      exact makeDirectories_of_route (hreadable.of_prefix htext habove) hmid hdir

/-- Writing a file with what it holds leaves everything as it is. -/
theorem replace_of_node (hnode : w.node path = .ok (.file content mode))
    (hfit : unfit? path = none) : replace w path content = (w, none) := by
  obtain ⟨hlocate, hfile⟩ := exists_of_node hnode
  have hroot : w.place path ≠ [] := by
    intro hroot
    rw [hroot] at hfile
    cases hfile
  apply replace_of_install (makeDirectories_of_node hnode)
  simp only [install, hlocate, hfit, putFile, hfile, withNode]
  rw [Disk.set_of_get? hroot hfile]

theorem unfit?_of_replace (h : replace w path content = (w', none)) : unfit? path = none := by
  unfold replace at h
  simp only at h
  split at h
  · cases h
  · split at h
    · cases h
    · rename_i hinstall
      exact (exists_of_install hinstall).2.1

end Workspace

end Phrasebook
