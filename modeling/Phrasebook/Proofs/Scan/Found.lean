import Phrasebook.Proofs.Disk.Tree
import Phrasebook.Proofs.Result
import Phrasebook.Proofs.Scan.Files

/-!
What a scan finds, said of the disk alone.

A namespace is a directory that is asked for, and its source files are the files below it that are
not left out. Directories that were made meanwhile hold no files, so a later scan finds no more.
-/

namespace Phrasebook

open Disk (Content Location Node)

namespace Path

theorem parts_foldl_join (base : String) {names : Location} (hnames : names.IsNamed) :
    parts (names.foldl join base) = parts base ++ names.map .name ∧
      isAbsolute (names.foldl join base) = isAbsolute base := by
  induction names generalizing base with
  | nil => simp
  | cons name names ih =>
      have hname : IsName name := hnames name (List.mem_cons_self ..)
      have hrest : Location.IsNamed names := fun n hn => hnames n (List.mem_cons_of_mem _ hn)
      obtain ⟨hparts, habsolute⟩ := ih (join base name) hrest
      rw [List.foldl_cons, hparts, habsolute, parts_join base hname, isAbsolute_join base hname]
      simp

end Path

namespace Disk

theorem mem_files_iff {disk : Disk} (h : disk.WellFormed) {loc : Location} {content : Content} :
    (loc, content) ∈ disk.files ↔ disk.content? loc = some content := by
  constructor
  · intro hmem
    obtain ⟨⟨loc', node⟩, hp, hfile⟩ := List.mem_filterMap.mp hmem
    obtain ⟨content', hcontent, heq⟩ := Option.map_eq_some_iff.mp hfile
    cases heq
    rw [content?, h.get?_of_mem hp]
    exact hcontent
  · intro hcontent
    obtain ⟨node, hnode, hfile⟩ := Option.bind_eq_some_iff.mp hcontent
    have hroot : loc ≠ [] := by
      rintro rfl
      obtain rfl := Option.some.inj hnode
      cases hfile
    refine List.mem_filterMap.mpr ⟨(loc, node), mem_nodes_of_get? hroot hnode, ?_⟩
    exact Option.map_eq_some_iff.mpr ⟨content, hfile, rfl⟩

end Disk

namespace Scan

variable {w : Workspace}

theorem exists_of_pathBelow? {loc : Location} {path found : String} {file : Location × Content}
    (h : pathBelow? loc path file = some found) : ∃ rest ≠ [], file.1 = loc ++ rest := by
  unfold pathBelow? at h
  split at h
  · rename_i hbelow
    obtain ⟨hstarts, hlength⟩ := Bool.and_eq_true_iff.mp hbelow
    obtain ⟨rest, hrest⟩ := List.isPrefixOf_iff_prefix.mp hstarts
    refine ⟨rest, ?_, hrest.symm⟩
    rintro rfl
    rw [List.append_nil] at hrest
    rw [hrest] at hlength
    exact absurd (of_decide_eq_true hlength) (Nat.lt_irrefl _)
  · cases h

theorem mem_sourceFiles_iff {directory path : String} {loc : Location} {mode : Nat}
    (hloc : w.locate directory = .ok loc) (hdir : w.disk.get? loc = some (.directory mode))
    {extensions : List String} {rules : IgnoreRules} :
    path ∈ (sourceFiles w extensions rules directory).files ↔
      (∃ file ∈ w.disk.files, pathBelow? loc directory file = some path) ∧
        rules.ignores path = false ∧ hasExtension extensions path = true := by
  simp only [sourceFiles, regularFiles_of_directory hloc hdir]
  rw [(List.mergeSort_perm _ _).mem_iff, List.mem_filter, List.mem_filterMap]
  simp

/-- Nothing is found in a directory that cannot be reached. -/
theorem locate_of_mem_sourceFiles {directory path : String} {extensions : List String}
    {rules : IgnoreRules} (h : path ∈ (sourceFiles w extensions rules directory).files) :
    w.locate directory = .ok (w.place directory) := by
  cases hloc : w.locate directory with
  | error e =>
      simp [sourceFiles, regularFiles, hloc] at h
  | ok loc => rw [Workspace.eq_place_of_locate hloc]

/-- The files of a scan are there, and their paths lead down from the directory. -/
theorem exists_names_of_mem_sourceFiles (hw : w.WellFormed) {directory path : String}
    {extensions : List String} {rules : IgnoreRules} {mode : Nat}
    (hdir : w.disk.get? (w.place directory) = some (.directory mode))
    (h : path ∈ (sourceFiles w extensions rules directory).files) :
    (∃ names, Location.IsNamed names ∧ path = names.foldl Path.join directory) ∧
      ∃ content, w.contentAt path = some content := by
  have hloc := locate_of_mem_sourceFiles h
  obtain ⟨⟨⟨file, content⟩, hfile, hpath⟩, -⟩ := (mem_sourceFiles_iff hloc hdir).mp h
  have hnamed := hw.disk.isNamed_of_mem_files hfile
  obtain ⟨hplace, -⟩ := place_of_pathBelow? hnamed hpath
  refine ⟨?_, content, ?_⟩
  · unfold pathBelow? at hpath
    split at hpath
    · exact ⟨_, fun name hname => hnamed name (List.mem_of_mem_drop hname),
        (Option.some.inj hpath).symm⟩
    · cases hpath
  · rw [Workspace.contentAt, hplace]
    exact (Disk.mem_files_iff hw.disk).mp hfile

theorem exists_of_mem_sourceFiles (hw : w.WellFormed) {directory path : String}
    {extensions : List String} {rules : IgnoreRules} {mode : Nat}
    (hdir : w.disk.get? (w.place directory) = some (.directory mode))
    (h : path ∈ (sourceFiles w extensions rules directory).files) :
    w.Steady path ∧ ∃ content, w.contentAt path = some content := by
  obtain ⟨⟨names, hnames, rfl⟩, hcontent⟩ := exists_names_of_mem_sourceFiles hw hdir h
  obtain ⟨hparts, habsolute⟩ := Path.parts_foldl_join directory hnames
  refine ⟨⟨Path.parts directory, w.place directory, names, hparts, ?_⟩, hcontent⟩
  rw [Workspace.origin, habsolute, ← Workspace.origin]
  exact Workspace.walk_of_locate (locate_of_mem_sourceFiles h)

theorem mem_children_iff {disk : Disk} (h : disk.WellFormed) {loc : Location} {name : String}
    {node : Node} : (name, node) ∈ disk.children loc ↔ disk.get? (loc ++ [name]) = some node := by
  constructor
  · intro hmem
    exact h.get?_of_mem (mem_nodes_of_mem_children hmem)
  · intro hnode
    rw [children_eq]
    refine List.mem_filterMap.mpr ⟨_, Disk.mem_nodes_of_get? (by simp) hnode, ?_⟩
    simp [child?]

theorem exists_of_list {path : String} {nodes : List (String × Node)}
    (h : w.list path = .ok nodes) :
    w.locate path = .ok (w.place path) ∧
      (∃ mode, w.disk.get? (w.place path) = some (.directory mode)) ∧
      nodes = w.disk.children (w.place path) := by
  unfold Workspace.list at h
  split at h
  · cases h
  rename_i loc hloc
  obtain rfl := Workspace.eq_place_of_locate hloc
  split at h
  · cases h
  · cases h
  · rename_i mode hdir
    exact ⟨hloc, ⟨mode, hdir⟩, (Except.ok.inj h).symm⟩

/-- The namespaces of a project are the directories that are asked for. -/
theorem mem_namespaces_iff (hw : w.WellFormed) {root : String} {only : List String}
    {found : List Namespace} (h : namespaces w root only = .ok found) {n : Namespace} :
    n ∈ found ↔ n.directory = Path.join root n.name ∧ isSelected only n.name = true ∧
      ∃ mode, w.disk.get? (w.place root ++ [n.name]) = some (.directory mode) := by
  obtain ⟨nodes, hnodes, rfl⟩ := exists_of_map_eq_ok h
  obtain ⟨-, -, rfl⟩ := exists_of_list hnodes
  rw [List.mem_map]
  constructor
  · rintro ⟨name, hname, rfl⟩
    obtain ⟨⟨name', node⟩, hchild, rfl⟩ :=
      List.mem_map.mp ((List.mergeSort_perm _ _).mem_iff.mp hname)
    obtain ⟨hmem, hkind⟩ := List.mem_filter.mp hchild
    obtain ⟨hdirectory, hselected⟩ := Bool.and_eq_true_iff.mp hkind
    refine ⟨rfl, hselected, ?_⟩
    cases node with
    | file content mode => cases hdirectory
    | directory mode => exact ⟨mode, (mem_children_iff hw.disk).mp hmem⟩
  · rintro ⟨hdirectory, hselected, mode, hnode⟩
    refine ⟨n.name, (List.mergeSort_perm _ _).mem_iff.mpr ?_, ?_⟩
    · refine List.mem_map.mpr ⟨(n.name, .directory mode), ?_, rfl⟩
      exact List.mem_filter.mpr ⟨(mem_children_iff hw.disk).mpr hnode, hselected⟩
    · rw [← hdirectory]

/-- A later scan finds the directory of the project where it was. -/
theorem namespaces_of_changes {w' : Workspace} {places : List Location}
    (hchanges : w.Changes places w') {root : String} {only : List String}
    {found : List Namespace} (h : namespaces w root only = .ok found) :
    ∃ found', namespaces w' root only = .ok found' := by
  obtain ⟨nodes, hnodes, -⟩ := exists_of_map_eq_ok h
  obtain ⟨hloc, ⟨mode, hdir⟩, -⟩ := exists_of_list hnodes
  have hdir' := hchanges.disk.directory hdir
  have hloc' := hchanges.locate_of_directory hloc hdir
  simp only [namespaces, Workspace.list, hloc', hdir', Except.map]
  exact ⟨_, rfl⟩

end Scan

end Phrasebook
