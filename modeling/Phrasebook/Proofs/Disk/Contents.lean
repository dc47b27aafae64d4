import Phrasebook.Proofs.Disk.Place

/-!
What the files of a disk hold, and how two disks can differ.

Directories are never taken away, and a file is only changed at a place that is known to be
written. This is all that later results need to know about a write.
-/

namespace Phrasebook.Disk

/-- A disk that has one node at a location, with names on the way to it. -/
structure WellFormed (disk : Disk) : Prop where
  nodup : (disk.nodes.map (·.1)).Nodup
  named : ∀ p ∈ disk.nodes, p.1 ≠ [] ∧ p.1.IsNamed

def Node.content? : Node → Option Content
  | .file content _ => some content
  | .directory _ => none

def content? (disk : Disk) (loc : Location) : Option Content := (disk.get? loc).bind Node.content?

def filesOf (nodes : List (Location × Node)) : List (Location × Content) :=
  nodes.filterMap fun p => p.2.content?.map fun content => (p.1, content)

def files (disk : Disk) : List (Location × Content) := filesOf disk.nodes

@[simp] theorem filesOf_nil : filesOf [] = [] := rfl

@[simp] theorem filesOf_file (loc : Location) (content : Content) (mode : Nat)
    (nodes : List (Location × Node)) :
    filesOf ((loc, .file content mode) :: nodes) = (loc, content) :: filesOf nodes := rfl

@[simp] theorem filesOf_directory (loc : Location) (mode : Nat)
    (nodes : List (Location × Node)) :
    filesOf ((loc, .directory mode) :: nodes) = filesOf nodes := rfl

@[simp] theorem filesOf_append (nodes more : List (Location × Node)) :
    filesOf (nodes ++ more) = filesOf nodes ++ filesOf more := by
  simp [filesOf]

theorem lookup_filesOf {nodes : List (Location × Node)} (h : (nodes.map (·.1)).Nodup)
    (loc : Location) : (filesOf nodes).lookup loc = (nodes.lookup loc).bind Node.content? := by
  induction nodes with
  | nil => rfl
  | cons p nodes ih =>
      obtain ⟨l, node⟩ := p
      obtain ⟨hnot, hrest⟩ := List.nodup_cons.mp h
      by_cases hl : loc = l
      · subst hl
        have hmissing : nodes.lookup loc = none := by
          rw [List.lookup_eq_none_iff]
          intro q hq
          have hne : q.1 ≠ loc := by
            rintro rfl
            exact hnot (List.mem_map.mpr ⟨q, hq, rfl⟩)
          simpa using hne.symm
        have ih' := ih hrest
        rw [hmissing] at ih'
        cases node with
        | file content mode => simp [Node.content?]
        | directory mode => simpa [Node.content?] using ih'
      · have hl' : (loc == l) = false := by simpa using hl
        cases node with
        | file content mode => simp [List.lookup_cons, hl', ih hrest]
        | directory mode => simp [List.lookup_cons, hl', ih hrest]

theorem content?_eq_lookup {disk : Disk} (h : disk.WellFormed) (loc : Location) :
    disk.content? loc = disk.files.lookup loc := by
  rw [files, lookup_filesOf h.nodup, content?, get?]
  split
  · rename_i hroot
    have hmissing : disk.nodes.lookup loc = none := by
      rw [List.lookup_eq_none_iff]
      intro p hp
      have hne : p.1 ≠ [] := (h.named p hp).1
      simpa [hroot] using hne.symm
    rw [hmissing]
    rfl
  · rfl

namespace WellFormed

variable {disk : Disk}

theorem get?_of_mem (h : disk.WellFormed) {loc : Location} {node : Node}
    (hmem : (loc, node) ∈ disk.nodes) : disk.get? loc = some node := by
  rw [get?, if_neg (h.named _ hmem).1]
  have hnodup := h.nodup
  revert hmem hnodup
  induction disk.nodes with
  | nil => simp
  | cons p nodes ih =>
      intro hmem hnodup
      obtain ⟨hnot, hrest⟩ := List.nodup_cons.mp hnodup
      rcases List.mem_cons.mp hmem with rfl | hmem
      · simp
      · have hne : loc ≠ p.1 := by
          rintro rfl
          exact hnot (List.mem_map.mpr ⟨_, hmem, rfl⟩)
        have hne' : (loc == p.1) = false := by simpa using hne
        rw [List.lookup_cons, hne']
        exact ih hmem hrest

theorem pairwise_files (h : disk.WellFormed) :
    disk.files.Pairwise fun p q => p.1 ≠ q.1 := by
  unfold files filesOf
  rw [List.pairwise_filterMap]
  refine (List.pairwise_map.mp h.nodup).imp ?_
  intro p q hne a ha b hb
  obtain ⟨_, -, rfl⟩ := Option.map_eq_some_iff.mp ha
  obtain ⟨_, -, rfl⟩ := Option.map_eq_some_iff.mp hb
  exact hne

theorem isNamed_of_mem_files (h : disk.WellFormed) {file : Location × Content}
    (hfile : file ∈ disk.files) : file.1.IsNamed := by
  obtain ⟨p, hp, hcontent⟩ := List.mem_filterMap.mp hfile
  obtain ⟨_, -, rfl⟩ := Option.map_eq_some_iff.mp hcontent
  exact (h.named p hp).2

end WellFormed

def outside (places : List Location) (fs : List (Location × Content)) :
    List (Location × Content) :=
  fs.filter fun p => p.1 ∉ places

theorem outside_cons_of_mem {places : List Location} {p : Location × Content} (h : p.1 ∈ places)
    (fs : List (Location × Content)) : outside places (p :: fs) = outside places fs := by
  simp [outside, h]

theorem outside_cons_of_not_mem {places : List Location} {p : Location × Content}
    (h : p.1 ∉ places) (fs : List (Location × Content)) :
    outside places (p :: fs) = p :: outside places fs := by
  simp [outside, h]

theorem outside_outside {places more : List Location} (h : places ⊆ more)
    (fs : List (Location × Content)) : outside more (outside places fs) = outside more fs := by
  unfold outside
  rw [List.filter_filter]
  refine List.filter_congr fun p _ => ?_
  by_cases hp : p.1 ∈ more
  · simp [hp]
  · have hout : p.1 ∉ places := fun hin => hp (h hin)
    simp [hp, hout]

theorem lookup_outside {places : List Location} {loc : Location} (hloc : loc ∉ places)
    (fs : List (Location × Content)) : (outside places fs).lookup loc = fs.lookup loc := by
  induction fs with
  | nil => rfl
  | cons p fs ih =>
      obtain ⟨l, content⟩ := p
      by_cases hl : l ∈ places
      · have hne : (loc == l) = false := by
          have hloc' : loc ≠ l := fun e => hloc (e ▸ hl)
          simpa using hloc'
        rw [outside_cons_of_mem hl, ih, List.lookup_cons, hne]
      · rw [outside_cons_of_not_mem hl, List.lookup_cons, List.lookup_cons, ih]

/-- One disk comes from another by writing files at some places and by making directories. -/
structure Changes (places : List Location) (before after : Disk) : Prop where
  wellFormed : after.WellFormed
  files : outside places after.files = outside places before.files
  directory : ∀ {loc mode}, before.get? loc = some (.directory mode) →
    after.get? loc = some (.directory mode)

namespace Changes

variable {places more : List Location} {first second third : Disk}

theorem refl (h : first.WellFormed) : Changes places first first := ⟨h, rfl, id⟩

theorem trans (h : Changes places first second) (h' : Changes places second third) :
    Changes places first third :=
  ⟨h'.wellFormed, h'.files.trans h.files, fun hdir => h'.directory (h.directory hdir)⟩

theorem mono (h : Changes places first second) (hsub : places ⊆ more) :
    Changes more first second := by
  refine ⟨h.wellFormed, ?_, h.directory⟩
  rw [← outside_outside hsub second.files, h.files, outside_outside hsub]

theorem content?_eq (h : Changes places first second) (hfirst : first.WellFormed) {loc : Location}
    (hloc : loc ∉ places) : second.content? loc = first.content? loc := by
  rw [content?_eq_lookup h.wellFormed, content?_eq_lookup hfirst, ← lookup_outside hloc,
    h.files, lookup_outside hloc]

end Changes

theorem setNode_of_lookup_eq_none {loc : Location} {nodes : List (Location × Node)}
    (h : nodes.lookup loc = none) (node : Node) :
    setNode loc node nodes = nodes ++ [(loc, node)] := by
  induction nodes with
  | nil => rfl
  | cons p nodes ih =>
      obtain ⟨l, n⟩ := p
      rw [List.lookup_cons] at h
      by_cases hl : l = loc
      · simp [hl] at h
      · have hne : (loc == l) = false := by simpa using Ne.symm hl
        rw [hne] at h
        simp [setNode, hl, ih h]

theorem map_fst_setNode {loc : Location} {nodes : List (Location × Node)} {old : Node}
    (h : nodes.lookup loc = some old) (node : Node) :
    (setNode loc node nodes).map (·.1) = nodes.map (·.1) := by
  induction nodes with
  | nil => simp at h
  | cons p nodes ih =>
      obtain ⟨l, n⟩ := p
      rw [List.lookup_cons] at h
      by_cases hl : l = loc
      · simp [setNode, hl]
      · have hne : (loc == l) = false := by simpa using Ne.symm hl
        rw [hne] at h
        simp [setNode, hl, ih h]

theorem mem_setNode {loc : Location} {node : Node} {nodes : List (Location × Node)}
    {p : Location × Node} (h : p ∈ setNode loc node nodes) : p.1 = loc ∨ p ∈ nodes := by
  induction nodes with
  | nil => simp_all [setNode]
  | cons q nodes ih =>
      obtain ⟨l, n⟩ := q
      by_cases hl : l = loc
      · rw [setNode, if_pos hl] at h
        rcases List.mem_cons.mp h with rfl | hrest
        · exact Or.inl hl
        · exact Or.inr (List.mem_cons_of_mem _ hrest)
      · rw [setNode, if_neg hl] at h
        rcases List.mem_cons.mp h with rfl | hrest
        · exact Or.inr (List.mem_cons_self ..)
        · exact (ih hrest).imp_right (List.mem_cons_of_mem _)

theorem WellFormed.set {disk : Disk} (h : disk.WellFormed) {loc : Location} (hroot : loc ≠ [])
    (hloc : loc.IsNamed) (node : Node) : (disk.set loc node).WellFormed where
  nodup := by
    rcases hold : disk.nodes.lookup loc with _ | old
    · have hnew : loc ∉ disk.nodes.map (·.1) := by
        intro hmem
        obtain ⟨p, hp, rfl⟩ := List.mem_map.mp hmem
        simpa using List.lookup_eq_none_iff.mp hold p hp
      rw [Disk.set, setNode_of_lookup_eq_none hold, List.map_append]
      refine List.nodup_append.mpr ⟨h.nodup, by simp, ?_⟩
      rintro a ha b hb rfl
      obtain rfl : a = loc := List.mem_singleton.mp hb
      exact hnew ha
    · rw [Disk.set, map_fst_setNode hold]
      exact h.nodup
  named := by
    intro p hp
    rcases mem_setNode hp with hp | hp
    · rw [hp]
      exact ⟨hroot, hloc⟩
    · exact h.named p hp

theorem outside_filesOf_cons {places : List Location} {loc : Location} (hloc : loc ∈ places)
    (node : Node) (nodes : List (Location × Node)) :
    outside places (filesOf ((loc, node) :: nodes)) = outside places (filesOf nodes) := by
  cases node with
  | file content mode => exact outside_cons_of_mem hloc _
  | directory mode => rfl

theorem outside_filesOf_setNode {places : List Location} {loc : Location} (hloc : loc ∈ places)
    (node : Node) (nodes : List (Location × Node)) :
    outside places (filesOf (setNode loc node nodes)) = outside places (filesOf nodes) := by
  induction nodes with
  | nil => exact outside_filesOf_cons hloc node []
  | cons p nodes ih =>
      obtain ⟨l, n⟩ := p
      by_cases hl : l = loc
      · rw [setNode, if_pos hl, hl, outside_filesOf_cons hloc, outside_filesOf_cons hloc]
      · rw [setNode, if_neg hl]
        cases n with
        | directory mode => exact ih
        | file content mode =>
            by_cases hl' : l ∈ places
            · rw [filesOf_file, filesOf_file, outside_cons_of_mem hl', outside_cons_of_mem hl', ih]
            · rw [filesOf_file, filesOf_file, outside_cons_of_not_mem hl',
                outside_cons_of_not_mem hl', ih]

theorem ne_root_of_get?_eq_none {disk : Disk} {loc : Location} (h : disk.get? loc = none) :
    loc ≠ [] := by
  rintro rfl
  simp [get?] at h

theorem changes_setFile {disk : Disk} (h : disk.WellFormed) {loc : Location} (hloc : loc.IsNamed)
    (hfree : ∀ mode, disk.get? loc ≠ some (.directory mode)) (content : Content) (mode : Nat) :
    Changes [loc] disk (disk.set loc (.file content mode)) where
  wellFormed := h.set (fun e => hfree newDirectoryMode (by rw [e]; rfl)) hloc _
  files := outside_filesOf_setNode (List.mem_singleton_self loc) _ _
  directory := by
    intro other mode' hdir
    have hne : other ≠ loc := by
      rintro rfl
      exact hfree mode' hdir
    rw [get?_set_of_ne disk hne, hdir]

theorem changes_addDirectory {disk : Disk} (h : disk.WellFormed) {loc : Location}
    (hloc : loc.IsNamed) (hfree : disk.get? loc = none) (mode : Nat) :
    Changes [] disk (disk.set loc (.directory mode)) where
  wellFormed := h.set (ne_root_of_get?_eq_none hfree) hloc _
  files := by
    have hmissing : disk.nodes.lookup loc = none := by
      simpa [get?, ne_root_of_get?_eq_none hfree] using hfree
    simp [Disk.files, Disk.set, setNode_of_lookup_eq_none hmissing]
  directory := by
    intro other mode' hdir
    have hne : other ≠ loc := by
      rintro rfl
      rw [hfree] at hdir
      cases hdir
    rw [get?_set_of_ne disk hne, hdir]

theorem content?_set_file (disk : Disk) {loc : Location} (hloc : loc ≠ []) (content : Content)
    (mode : Nat) : (disk.set loc (.file content mode)).content? loc = some content := by
  rw [content?, get?_set_self disk hloc]
  rfl

end Phrasebook.Disk
