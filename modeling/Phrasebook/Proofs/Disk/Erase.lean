import Phrasebook.Proofs.Disk.Trail

/-!
A workspace from which something is taken away.

Nothing changes but at the location and below it. A file can be taken away without making anything
else hard to reach.
-/

namespace Phrasebook

open Disk (Content Location Node)

namespace Disk

variable {disk : Disk} {front loc : Location}

theorem lookup_erase (disk : Disk) (front loc : Location) :
    (disk.erase front).nodes.lookup loc =
      if front <+: loc then none else disk.nodes.lookup loc := by
  unfold erase
  simp only
  induction disk.nodes with
  | nil => simp
  | cons p nodes ih =>
      obtain ⟨l, node⟩ := p
      by_cases hkept : front <+: l
      · rw [List.filter_cons_of_neg (by simpa using hkept), ih]
        by_cases hloc : loc = l
        · rw [hloc, if_pos hkept, if_pos hkept]
        · have hne : (loc == l) = false := by simpa using hloc
          rw [List.lookup_cons, hne]
      · have hpos : (!front.isPrefixOf l) = true := by
          rwa [Bool.not_eq_true', ← Bool.not_eq_true, List.isPrefixOf_iff_prefix]
        rw [List.filter_cons, if_pos hpos, List.lookup_cons, List.lookup_cons, ih]
        by_cases hloc : loc = l
        · simp [hloc, hkept]
        · have hne : (loc == l) = false := by simpa using hloc
          rw [hne]

theorem get?_erase_of_not_prefix (h : ¬ front <+: loc) :
    (disk.erase front).get? loc = disk.get? loc := by
  rw [get?, get?, lookup_erase, if_neg h]

theorem get?_erase_of_prefix (hfront : front ≠ []) (h : front <+: loc) :
    (disk.erase front).get? loc = none := by
  have hloc : loc ≠ [] := by
    rintro rfl
    exact hfront (List.prefix_nil.mp h)
  rw [get?, if_neg hloc, lookup_erase, if_pos h]

theorem WellFormed.erase (h : disk.WellFormed) (front : Location) :
    (disk.erase front).WellFormed where
  nodup := h.nodup.sublist (List.filter_sublist.map _)
  named p hp := h.named p (List.mem_filter.mp hp).1

/-- What lies below a location stays, if neither of the two is above the other. -/
theorem below_erase (habove : ¬ front <+: loc) (hbelow : ¬ loc <+: front) :
    (disk.erase front).below loc = disk.below loc := by
  unfold below erase
  rw [List.filterMap_filter]
  congr 1
  funext p
  by_cases hfront : front <+: p.1
  · have hloc : ¬ loc <+: p.1 := by
      intro hloc
      rcases List.prefix_or_prefix_of_prefix hfront hloc with h | h
      · exact habove h
      · exact hbelow h
    simp [hloc]
  · simp [hfront]

end Disk

namespace Workspace

/-- The workspace without what a path names. -/
def without (w : Workspace) (path : String) : Workspace :=
  { w with disk := w.disk.erase (w.place path) }

theorem place_without (w : Workspace) (path : String) : (w.without path).place = w.place := rfl

theorem get?_without_of_kept {w : Workspace} {path : String} {loc : Location}
    (h : ¬ w.place path <+: loc) : (w.without path).disk.get? loc = w.disk.get? loc :=
  Disk.get?_erase_of_not_prefix h

theorem WellFormed.without {w : Workspace} (h : w.WellFormed) (path : String) :
    (w.without path).WellFormed :=
  ⟨h.disk.erase _, h.directory⟩

/-- Apart from what was taken away, the two workspaces are the same. -/
theorem trails_without {w : Workspace} (hw : w.WellFormed) (hrooted : w.Rooted) {path : String}
    (hrooted' : (w.without path).Rooted) :
    Trails (fun loc => ¬ w.place path <+: loc) (fun loc => ¬ w.place path <+: loc) w
      (w.without path) := by
  have hkind : ∀ loc, ¬ w.place path <+: loc →
      (w.without path).disk.kind? loc = w.disk.kind? loc := by
    intro loc hloc
    rw [Disk.kind?, Disk.kind?, get?_without_of_kept hloc]
  exact ⟨rfl, hrooted, Disk.kind?_eq_directory_iff.mpr hrooted'.directory, ⟨hw, hw.without path⟩,
    fun loc hloc => Or.inl (hkind loc hloc), hkind⟩

/-- A file is above no directory. -/
theorem Rooted.get?_without {w : Workspace} (h : w.Rooted) {path : String} {content : Content}
    {mode : Nat} (hfile : w.disk.get? (w.place path) = some (.file content mode))
    {loc : Location} {dmode : Nat} (hdir : w.disk.get? loc = some (.directory dmode)) :
    (w.without path).disk.get? loc = some (.directory dmode) := by
  refine (get?_without_of_kept ?_).trans hdir
  rintro ⟨rest, rfl⟩
  by_cases hrest : rest = []
  · rw [hrest, List.append_nil, hfile] at hdir
    cases hdir
  · obtain ⟨mode', habove⟩ := h.directory_of_get? hrest hdir
    rw [hfile] at habove
    cases habove

theorem Rooted.without {w : Workspace} (h : w.Rooted) {path : String} {content : Content}
    {mode : Nat} (hfile : w.disk.get? (w.place path) = some (.file content mode)) :
    (w.without path).Rooted := by
  constructor
  · intro loc name node hnode
    have hroot : w.place path ≠ [] := by
      intro hnil
      rw [hnil] at hfile
      cases hfile
    have hkept : ¬ w.place path <+: loc ++ [name] := by
      intro hprefix
      rw [Workspace.without, Disk.get?_erase_of_prefix hroot hprefix] at hnode
      cases hnode
    rw [get?_without_of_kept hkept] at hnode
    obtain ⟨pmode, hparent⟩ := h.parent hnode
    exact ⟨pmode, h.get?_without hfile hparent⟩
  · obtain ⟨dmode, hdirectory⟩ := h.directory
    exact ⟨dmode, h.get?_without hfile hdirectory⟩

/-- Without a file, every directory can be reached as before. -/
theorem Rooted.hasDirectory_without {w : Workspace} (h : w.Rooted) {path : String}
    {content : Content} {mode : Nat}
    (hfile : w.disk.get? (w.place path) = some (.file content mode)) {other : String}
    (hother : w.hasDirectory other = true) : (w.without path).hasDirectory other = true := by
  obtain ⟨hlocate, dmode, hdir⟩ := hasDirectory_eq_true_iff.mp hother
  have hdirectory : (w.without path).directory = w.directory := rfl
  exact hasDirectory_eq_true_iff.mpr
    ⟨locate_of_directories hdirectory (h.get?_without hfile) hlocate hdir, dmode,
      h.get?_without hfile hdir⟩

end Workspace

end Phrasebook
