import Phrasebook.Proofs.Disk.Walk
import Phrasebook.Proofs.Path.Order
import Phrasebook.Scan.Files

/-!
Where the files of a scan are.

The namespaces of a project are directories side by side, and the files of a namespace lie below
its directory, each found once. What is written elsewhere does not change what a scan finds.
-/

namespace Phrasebook.Scan

open Disk (Content Location Node)

/-- The path of a file below a location, seen from a path that leads to the location. -/
def pathBelow? (loc : Location) (path : String) (file : Location × Content) : Option String :=
  if loc.isPrefixOf file.1 && file.1.length > loc.length then
    some ((file.1.drop loc.length).foldl Path.join path)
  else none

theorem filterMap_below (disk : Disk) (loc : Location) (path : String) :
    ((disk.below loc).filterMap fun p =>
        if p.2.isDirectory then none else some (p.1.foldl Path.join path)) =
      disk.files.filterMap (pathBelow? loc path) := by
  unfold Disk.below Disk.files Disk.filesOf
  rw [List.filterMap_filterMap, List.filterMap_filterMap]
  congr 1
  funext p
  obtain ⟨l, node⟩ := p
  by_cases hl : (loc.isPrefixOf l && l.length > loc.length) = true
  · cases node with
    | file content mode =>
        simp only [hl, if_true, Node.content?, Option.map_some, Option.bind_some, pathBelow?]
        rfl
    | directory mode =>
        simp only [hl, if_true]
        rfl
  · cases node <;> simp [pathBelow?, hl, Node.content?]

theorem regularFiles_of_directory {w : Workspace} {path : String} {loc : Location} {mode : Nat}
    (hloc : w.locate path = .ok loc) (hdir : w.disk.get? loc = some (.directory mode)) :
    regularFiles w path = .ok (w.disk.files.filterMap (pathBelow? loc path)) := by
  unfold regularFiles
  simp only [hloc, hdir, ← filterMap_below]

theorem place_of_pathBelow? {w : Workspace} {path found : String} {file : Location × Content}
    (hnamed : Location.IsNamed file.1) (h : pathBelow? (w.place path) path file = some found) :
    w.place found = file.1 ∧ w.place path <+: file.1 := by
  unfold pathBelow? at h
  split at h
  · rename_i hbelow
    obtain ⟨hstarts, -⟩ := Bool.and_eq_true_iff.mp hbelow
    have hstarts : w.place path <+: file.1 := List.isPrefixOf_iff_prefix.mp hstarts
    obtain ⟨rest, hrest⟩ := hstarts
    have hdrop : file.1.drop (w.place path).length = rest := by rw [← hrest, List.drop_left]
    have hnames : Location.IsNamed rest := fun name hname =>
      hnamed name (hrest ▸ List.mem_append_right _ hname)
    cases h
    rw [hdrop, w.place_foldl_join path hnames, hrest]
    exact ⟨rfl, ⟨rest, hrest⟩⟩
  · cases h

theorem map_place_filterMap {w : Workspace} (hw : w.WellFormed) (path : String) :
    ((w.disk.files.filterMap (pathBelow? (w.place path) path)).map w.place).Nodup ∧
      ∀ found ∈ w.disk.files.filterMap (pathBelow? (w.place path) path),
        w.place path <+: w.place found := by
  have hfiles : ∀ file ∈ w.disk.files, Location.IsNamed file.1 :=
    fun _ => hw.disk.isNamed_of_mem_files
  constructor
  · rw [List.Nodup, List.pairwise_map, List.pairwise_filterMap]
    refine hw.disk.pairwise_files.imp_of_mem ?_
    intro a b ha hb hne p hp q hq
    rw [(place_of_pathBelow? (hfiles a ha) hp).1, (place_of_pathBelow? (hfiles b hb) hq).1]
    exact hne
  · intro found hfound
    obtain ⟨file, hfile, hpath⟩ := List.mem_filterMap.mp hfound
    obtain ⟨hplace, hstarts⟩ := place_of_pathBelow? (hfiles file hfile) hpath
    rw [hplace]
    exact hstarts

/-- The regular files at a path lie there or below, each once. -/
theorem places_of_regularFiles {w : Workspace} (hw : w.WellFormed) {path : String}
    {all : List String} (h : regularFiles w path = .ok all) :
    (all.map w.place).Nodup ∧ ∀ found ∈ all, w.place path <+: w.place found := by
  rcases hloc : w.locate path with e | loc
  · simp [regularFiles, hloc] at h
  rcases hnode : w.disk.get? loc with _ | ⟨content, mode⟩ | mode
  · simp [regularFiles, hloc, hnode] at h
  · have hall : [path] = all := by simpa [regularFiles, hloc, hnode] using h
    subst hall
    simp
  · rw [regularFiles_of_directory hloc hnode] at h
    obtain rfl := Workspace.eq_place_of_locate hloc
    rw [← Except.ok.inj h]
    exact map_place_filterMap hw path

/-- The files that a scan finds lie below the directory, each found once. -/
theorem places_of_sourceFiles {w : Workspace} (hw : w.WellFormed) (extensions : List String)
    (rules : IgnoreRules) (directory : String) :
    ((sourceFiles w extensions rules directory).files.map w.place).Nodup ∧
      ∀ path ∈ (sourceFiles w extensions rules directory).files,
        w.place directory <+: w.place path := by
  unfold sourceFiles
  split
  · simp
  · rename_i all hall
    obtain ⟨hnodup, hbelow⟩ := places_of_regularFiles hw hall
    simp only
    constructor
    · refine ((List.mergeSort_perm _ _).map _).nodup_iff.mpr ?_
      exact hnodup.sublist (List.filter_sublist.map _)
    · intro path hpath
      have hkept := (List.mergeSort_perm _ _).mem_iff.mp hpath
      exact hbelow path (List.mem_filter.mp hkept).1

theorem pairwise_sourceFiles (w : Workspace) (extensions : List String) (rules : IgnoreRules)
    (directory : String) :
    (sourceFiles w extensions rules directory).files.Pairwise fun a b => Path.le a b = true := by
  unfold sourceFiles
  split
  · exact List.Pairwise.nil
  · exact Path.pairwise_mergeSort _

/-- What is written outside of a directory does not change what a scan finds in it. -/
theorem sourceFiles_eq_of_changes {places : List Location} {w w' : Workspace}
    (hchanges : w.Changes places w') {directory : String}
    (hlocate : w'.locate directory = w.locate directory)
    (hdir : ∀ loc, w.locate directory = .ok loc →
      ∃ mode, w.disk.get? loc = some (.directory mode))
    (hplaces : ∀ place ∈ places, ¬ w.place directory <+: place) (extensions : List String)
    (rules : IgnoreRules) :
    sourceFiles w' extensions rules directory = sourceFiles w extensions rules directory := by
  have hregular : regularFiles w' directory = regularFiles w directory := by
    rcases hloc : w.locate directory with e | loc
    · rw [hloc] at hlocate
      simp [regularFiles, hloc, hlocate]
    · obtain ⟨mode, hnode⟩ := hdir loc hloc
      rw [hloc] at hlocate
      rw [regularFiles_of_directory hloc hnode,
        regularFiles_of_directory hlocate (hchanges.disk.directory hnode)]
      have hkeep : ∀ fs, fs.filterMap (pathBelow? loc directory) =
          (Disk.outside places fs).filterMap (pathBelow? loc directory) := by
        intro fs
        rw [Disk.outside, List.filterMap_filter]
        congr 1
        funext file
        by_cases hfile : file.1 ∈ places
        · have hnot : ¬ loc <+: file.1 :=
            Workspace.eq_place_of_locate hloc ▸ hplaces file.1 hfile
          simp [hfile, pathBelow?, hnot]
        · simp [hfile]
      rw [hkeep, hchanges.disk.files, ← hkeep]
  unfold sourceFiles
  rw [hregular]

def child? (loc : Location) (p : Location × Node) : Option (String × Node) :=
  if p.1 = loc ++ [p.1.getLast?.getD ""] then some (p.1.getLast?.getD "", p.2) else none

theorem children_eq (disk : Disk) (loc : Location) :
    disk.children loc = disk.nodes.filterMap (child? loc) := by
  unfold Disk.children Disk.below
  rw [List.filterMap_filterMap]
  congr 1
  funext p
  obtain ⟨l, node⟩ := p
  by_cases hstarts : loc <+: l
  · obtain ⟨rest, rfl⟩ := hstarts
    rcases rest with _ | ⟨name, _ | ⟨name', rest⟩⟩
    · simp [child?]
    · simp [child?]
    · simp [child?]
  · have hnot : l ≠ loc ++ [l.getLast?.getD ""] := fun e => hstarts ⟨_, e.symm⟩
    simp [child?, hstarts, hnot]

theorem eq_of_child? {loc : Location} {p : Location × Node} {name : String} {node : Node}
    (h : child? loc p = some (name, node)) : p = (loc ++ [name], node) := by
  unfold child? at h
  split at h
  · rename_i hlast
    cases h
    exact Prod.ext hlast rfl
  · cases h

theorem mem_nodes_of_mem_children {disk : Disk} {loc : Location} {name : String} {node : Node}
    (h : (name, node) ∈ disk.children loc) : (loc ++ [name], node) ∈ disk.nodes := by
  rw [children_eq] at h
  obtain ⟨p, hp, hchild⟩ := List.mem_filterMap.mp h
  exact eq_of_child? hchild ▸ hp

theorem nodup_children {disk : Disk} (h : disk.WellFormed) (loc : Location) :
    ((disk.children loc).map (·.1)).Nodup := by
  rw [children_eq, List.Nodup, List.pairwise_map, List.pairwise_filterMap]
  refine (List.pairwise_map.mp h.nodup).imp ?_
  rintro p q hne ⟨name, node⟩ hp ⟨name', node'⟩ hq heq
  rw [eq_of_child? hp, eq_of_child? hq] at hne
  exact hne (congrArg (loc ++ [·]) heq)

/-- The namespaces of a project are directories in one directory, each with its own name. -/
theorem exists_of_namespaces {w : Workspace} (hw : w.WellFormed) {root : String}
    {only : List String} {found : List Namespace} (h : namespaces w root only = .ok found) :
    ∃ loc mode, w.locate root = .ok loc ∧ w.disk.get? loc = some (.directory mode) ∧
      (found.map (·.name)).Nodup ∧
      ∀ n ∈ found, n.directory = Path.join root n.name ∧ Path.IsName n.name ∧
        ∃ mode', w.disk.get? (loc ++ [n.name]) = some (.directory mode') := by
  unfold namespaces Workspace.list at h
  rcases hloc : w.locate root with e | loc
  · simp [hloc, Except.map] at h
  rcases hnode : w.disk.get? loc with _ | ⟨content, mode⟩ | mode
  · simp [hloc, hnode, Except.map] at h
  · simp [hloc, hnode, Except.map] at h
  rw [hloc] at h
  simp only [hnode, Except.map, Except.ok.injEq] at h
  subst h
  refine ⟨loc, mode, rfl, hnode, ?_, ?_⟩
  · rw [List.map_map]
    refine ((List.mergeSort_perm _ _).map _).nodup_iff.mpr ?_
    rw [List.map_map]
    exact (nodup_children hw.disk loc).sublist (List.filter_sublist.map _)
  · intro n hn
    obtain ⟨name, hname, rfl⟩ := List.mem_map.mp hn
    obtain ⟨⟨name', node⟩, hchild, rfl⟩ :=
      List.mem_map.mp ((List.mergeSort_perm _ _).mem_iff.mp hname)
    obtain ⟨hmem, hkind⟩ := List.mem_filter.mp hchild
    have hnodes := mem_nodes_of_mem_children hmem
    refine ⟨rfl, (hw.disk.named _ hnodes).2 name' (by simp), ?_⟩
    cases node with
    | file content mode => simp [Node.isDirectory] at hkind
    | directory mode => exact ⟨mode, hw.disk.get?_of_mem hnodes⟩

theorem namespaces_of_list {w : Workspace} {root : String} {mode : Nat} (names : List String)
    (h : w.list root = .ok (names.map fun name => (name, .directory mode)))
    (hsorted : names.Pairwise fun a b => decide (a ≤ b) = true) :
    namespaces w root [] = .ok (names.map fun name => ⟨name, Path.join root name⟩) := by
  have hall : (names.map fun name => (name, Disk.Node.directory mode)).filter
      (fun p => p.2.isDirectory && isSelected [] p.1) =
        names.map fun name => (name, .directory mode) := by
    refine List.filter_eq_self.mpr fun p hp => ?_
    obtain ⟨name, -, rfl⟩ := List.mem_map.mp hp
    rfl
  have hnames : (names.map fun name => (name, Disk.Node.directory mode)).map (·.1) = names := by
    rw [List.map_map]
    exact List.map_id names
  rw [namespaces, h, Except.map]
  simp only [hall, hnames, List.mergeSort_of_pairwise hsorted]

theorem sourceFiles_of_regularFiles {w : Workspace} {directory path : String}
    {extensions : List String} {rules : IgnoreRules} (h : regularFiles w directory = .ok [path])
    (hkept : (!rules.ignores path && hasExtension extensions path) = true) :
    sourceFiles w extensions rules directory = ⟨[path], []⟩ := by
  simp [sourceFiles, h, hkept]

end Phrasebook.Scan
