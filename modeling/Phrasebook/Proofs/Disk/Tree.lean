import Phrasebook.Proofs.Disk.Walk

/-!
Reading files after others were written.

On a disk that is a tree, a path whose steps up can be taken from the start leads to a file in one
way only. So what such a path reads depends on the file at its end and on nothing that was made
meanwhile.
-/

namespace Phrasebook

open Disk (Content Location Node)

namespace Disk

theorem mem_nodes_of_get? {disk : Disk} {loc : Location} {node : Node} (hroot : loc ≠ [])
    (h : disk.get? loc = some node) : (loc, node) ∈ disk.nodes := by
  rw [get?, if_neg hroot] at h
  obtain ⟨front, back, hnodes, -⟩ := List.lookup_eq_some_iff.mp h
  rw [hnodes]
  exact List.mem_append_right _ List.mem_cons_self

end Disk

namespace Workspace

/-- A workspace in which everything lies in a directory, and which looks at a directory. -/
structure Rooted (w : Workspace) : Prop where
  parent : ∀ {loc name node}, w.disk.get? (loc ++ [name]) = some node →
    ∃ mode, w.disk.get? loc = some (.directory mode)
  directory : ∃ mode, w.disk.get? w.directory = some (.directory mode)

/-- A path that goes down by names from a place which can be reached. -/
def Steady (w : Workspace) (path : String) : Prop :=
  ∃ (front : List Path.Part) (loc : Location) (names : List String),
    Path.parts path = front ++ names.map .name ∧ w.disk.walk (w.origin path) front = .ok loc

theorem rooted_of_nodes {w : Workspace}
    (hnodes : ∀ p ∈ w.disk.nodes, (w.disk.get? p.1.dropLast).any Node.isDirectory = true)
    (hdirectory : (w.disk.get? w.directory).any Node.isDirectory = true) : w.Rooted := by
  have hdir : ∀ loc, (w.disk.get? loc).any Node.isDirectory = true →
      ∃ mode, w.disk.get? loc = some (.directory mode) := by
    intro loc h
    obtain ⟨node, hnode, hkind⟩ := (Option.any_eq_true ..).mp h
    cases node with
    | file content mode => cases hkind
    | directory mode => exact ⟨mode, hnode⟩
  refine ⟨fun {loc name node} hnode => ?_, hdir _ hdirectory⟩
  have hmem := hnodes _ (Disk.mem_nodes_of_get? (by simp) hnode)
  rw [List.dropLast_concat] at hmem
  exact hdir loc hmem

/-- Everything above a node is a directory. -/
theorem Rooted.directory_of_get? {w : Workspace} (h : w.Rooted) {loc rest : Location} {node : Node}
    (hrest : rest ≠ []) (hnode : w.disk.get? (loc ++ rest) = some node) :
    ∃ mode, w.disk.get? loc = some (.directory mode) := by
  induction rest generalizing loc with
  | nil => exact absurd rfl hrest
  | cons name rest ih =>
      cases rest with
      | nil => exact h.parent hnode
      | cons next rest =>
          rw [List.append_cons] at hnode
          obtain ⟨mode, hnext⟩ := ih (by simp) hnode
          exact h.parent hnext

theorem Rooted.get?_of_prefix {w : Workspace} (h : w.Rooted) {loc loc' : Location} {node : Node}
    (hloc : loc <+: loc') (hnode : w.disk.get? loc' = some node) :
    ∃ node', w.disk.get? loc = some node' := by
  obtain ⟨rest, rfl⟩ := hloc
  by_cases hrest : rest = []
  · rw [hrest, List.append_nil] at hnode
    exact ⟨node, hnode⟩
  · obtain ⟨mode, hdir⟩ := h.directory_of_get? hrest hnode
    exact ⟨_, hdir⟩

end Workspace

namespace Disk

theorem foldl_follow_names (loc : Location) (names : List String) :
    (names.map Path.Part.name).foldl follow loc = loc ++ names := by
  induction names generalizing loc with
  | nil => simp
  | cons name names ih =>
      rw [List.map_cons, List.foldl_cons, ih, follow, List.append_assoc]
      rfl

/-- A walk by names through directories goes as it went before. -/
theorem Changes.walk_names {places : List Location} {disk disk' : Disk}
    (hchanges : Changes places disk disk') {loc : Location} {names : List String}
    (hdirs : ∀ front name back, names = front ++ name :: back →
      ∃ mode, disk.get? (loc ++ front) = some (.directory mode)) :
    disk'.walk loc (names.map .name) = disk.walk loc (names.map .name) := by
  induction names generalizing loc with
  | nil => rfl
  | cons name names ih =>
      obtain ⟨mode, hdir⟩ := hdirs [] name names rfl
      rw [List.append_nil] at hdir
      rw [List.map_cons, walk, walk,
        step_eq_of_directory hdir (hchanges.directory hdir) (.name name)]
      cases hstep : disk.step loc (.name name) with
      | error e => rfl
      | ok next =>
          obtain rfl : loc ++ [name] = next := follow_of_step hstep
          apply ih
          intro front next back hsplit
          rw [List.append_assoc]
          exact hdirs (name :: front) next back (by rw [hsplit]; rfl)

end Disk

namespace Workspace

theorem origin_eq_of_directory {w w' : Workspace} (h : w'.directory = w.directory)
    (path : String) : w'.origin path = w.origin path := by
  rw [origin, origin, h]

theorem Steady.place_eq {w : Workspace} {path : String} {front : List Path.Part} {loc : Location}
    {names : List String} (hparts : Path.parts path = front ++ names.map .name)
    (hwalk : w.disk.walk (w.origin path) front = .ok loc) : w.place path = loc ++ names := by
  have hfront : front.foldl Disk.follow (w.origin path) = loc := Disk.foldl_follow_of_walk hwalk
  rw [place, hparts, List.foldl_append, ← Disk.foldl_follow_names, ← hfront, origin]

/-- The way to something that is there does not change. -/
theorem Changes.walk_steady {places : List Location} {w w' : Workspace}
    (hchanges : w.Changes places w') (hrooted : w.Rooted) {path : String} (hsteady : w.Steady path)
    {node : Node} (hnode : w.disk.get? (w.place path) = some node) :
    w'.disk.walk (w'.origin path) (Path.parts path) =
      w.disk.walk (w.origin path) (Path.parts path) := by
  obtain ⟨front, loc, names, hparts, hwalk⟩ := hsteady
  rw [Steady.place_eq hparts hwalk] at hnode
  rw [hparts, Disk.walk_append, Disk.walk_append, origin_eq_of_directory hchanges.directory,
    hwalk, hchanges.disk.walk_eq hwalk]
  refine hchanges.disk.walk_names fun front' name back hsplit => ?_
  rw [hsplit, ← List.append_assoc] at hnode
  exact hrooted.directory_of_get? (by simp) hnode

/-- What a path leads to, given how far a walk comes and what kind of node is there. -/
theorem locate_eq_of_walk {w w' : Workspace} {path : String}
    (hwalk : w'.disk.walk (w'.origin path) (Path.parts path) =
      w.disk.walk (w.origin path) (Path.parts path))
    {node node' : Node} (hnode : w.disk.get? (w.place path) = some node)
    (hnode' : w'.disk.get? (w.place path) = some node')
    (hkind : node'.isDirectory = node.isDirectory) : w'.locate path = w.locate path := by
  unfold locate
  rw [← origin, ← origin, hwalk]
  cases hlast : w.disk.walk (w.origin path) (Path.parts path) with
  | error e => rfl
  | ok last =>
      have hplace : w.place path = last := Disk.foldl_follow_of_walk hlast
      rw [← hplace]
      simp only [hnode, hnode']
      cases node with
      | file content mode =>
          cases node' with
          | file content' mode' => rfl
          | directory mode' => cases hkind
      | directory mode =>
          cases node' with
          | file content' mode' => cases hkind
          | directory mode' => rfl

theorem exists_file_of_contentAt {w : Workspace} {path : String} {content : Content}
    (h : w.contentAt path = some content) :
    ∃ mode, w.disk.get? (w.place path) = some (.file content mode) := by
  obtain ⟨node, hnode, hcontent⟩ := Option.bind_eq_some_iff.mp h
  cases node with
  | file content' mode =>
      obtain rfl := Option.some.inj hcontent
      exact ⟨mode, hnode⟩
  | directory mode => cases hcontent

theorem readText_eq_of_locate {w w' : Workspace} {path : String}
    (hlocate : w'.locate path = w.locate path) {content : Content}
    (hcontent : w.contentAt path = some content) (hcontent' : w'.contentAt path = some content)
    (hplace : w'.place path = w.place path) : w'.readText path = w.readText path := by
  obtain ⟨mode, hfile⟩ := exists_file_of_contentAt hcontent
  obtain ⟨mode', hfile'⟩ := exists_file_of_contentAt hcontent'
  unfold readText node
  rw [hlocate]
  cases hloc : w.locate path with
  | error e => rfl
  | ok loc =>
      obtain rfl := eq_place_of_locate hloc
      rw [hplace] at hfile'
      simp only [hfile, hfile']
      cases content <;> rfl

/-- A file that holds what it held reads as before. -/
theorem Changes.readText_eq {places : List Location} {w w' : Workspace}
    (hchanges : w.Changes places w') (hrooted : w.Rooted) {path : String}
    (hsteady : w.Steady path) {content : Content} (hcontent : w.contentAt path = some content)
    (hsame : w'.contentAt path = w.contentAt path) : w'.readText path = w.readText path := by
  have hcontent' : w'.contentAt path = some content := hsame.trans hcontent
  obtain ⟨mode, hfile⟩ := exists_file_of_contentAt hcontent
  obtain ⟨mode', hfile'⟩ := exists_file_of_contentAt hcontent'
  rw [hchanges.place_eq] at hfile'
  have hwalk := hchanges.walk_steady hrooted hsteady hfile
  exact readText_eq_of_locate (locate_eq_of_walk hwalk hfile hfile' rfl) hcontent hcontent'
    (hchanges.place_eq path)

theorem locate_of_readText {w : Workspace} {path source : String}
    (h : w.readText path = .ok source) : w.locate path = .ok (w.place path) := by
  unfold readText at h
  split at h
  · cases h
  · cases h
  · cases h
  rename_i hnode
  unfold node at hnode
  split at hnode
  · cases hnode
  rename_i loc hloc
  rw [hloc, eq_place_of_locate hloc]

theorem readText_of_locate {w : Workspace} {path text : String}
    (hlocate : w.locate path = .ok (w.place path)) (htext : w.contentAt path = some (.text text)) :
    w.readText path = .ok text := by
  obtain ⟨mode, hfile⟩ := exists_file_of_contentAt htext
  simp only [readText, node, hlocate, hfile]

/-- A file that could be read can be read after it got another text. -/
theorem Changes.readText_eq_ok {places : List Location} {w w' : Workspace}
    (hchanges : w.Changes places w') {path source text : String}
    (hread : w.readText path = .ok source) (htext : w'.contentAt path = some (.text text)) :
    w'.readText path = .ok text := by
  have hlocate := locate_of_readText hread
  have hwalk := walk_of_locate hlocate
  obtain ⟨mode, hfile⟩ := exists_file_of_contentAt (contentAt_of_readText hread)
  obtain ⟨mode', hfile'⟩ := exists_file_of_contentAt htext
  rw [hchanges.place_eq] at hfile'
  have hwalk' : w'.disk.walk (w'.origin path) (Path.parts path) =
      w.disk.walk (w.origin path) (Path.parts path) := by
    rw [origin_eq_of_directory hchanges.directory, hwalk, hchanges.disk.walk_eq hwalk]
  refine readText_of_locate ?_ htext
  rw [locate_eq_of_walk hwalk' hfile hfile' rfl, hlocate, hchanges.place_eq]

theorem exists_of_node {w : Workspace} {path : String} {n : Node} (h : w.node path = .ok n) :
    w.locate path = .ok (w.place path) ∧ w.disk.get? (w.place path) = some n := by
  unfold node at h
  split at h
  · cases h
  rename_i loc hloc
  split at h
  · cases h
  rename_i n' hget
  obtain rfl := Except.ok.inj h
  obtain rfl := eq_place_of_locate hloc
  exact ⟨hloc, hget⟩

theorem node_of_locate {w : Workspace} {path : String} {n : Node}
    (hlocate : w.locate path = .ok (w.place path)) (hnode : w.disk.get? (w.place path) = some n) :
    w.node path = .ok n := by
  simp only [node, hlocate, hnode]

theorem hasDirectory_eq_true_iff {w : Workspace} {path : String} :
    w.hasDirectory path = true ↔ w.locate path = .ok (w.place path) ∧
      ∃ mode, w.disk.get? (w.place path) = some (.directory mode) := by
  constructor
  · intro h
    unfold hasDirectory at h
    split at h
    · rename_i n hnode
      obtain ⟨hlocate, hget⟩ := exists_of_node hnode
      cases n with
      | file content mode => cases h
      | directory mode => exact ⟨hlocate, mode, hget⟩
    · cases h
  · rintro ⟨hlocate, mode, hget⟩
    simp only [hasDirectory, node_of_locate hlocate hget, Node.isDirectory]

theorem readText_eq_of_node {w w' : Workspace} {path : String} {n n' : Node}
    (hnode : w.node path = .ok n) (hnode' : w'.node path = .ok n')
    (hcontent : n'.content? = n.content?) : w'.readText path = w.readText path := by
  unfold readText
  rw [hnode, hnode']
  cases n with
  | file content mode =>
      cases n' with
      | file content' mode' =>
          obtain rfl := Option.some.inj hcontent
          cases content' <;> rfl
      | directory mode' => cases hcontent
  | directory mode =>
      cases n' with
      | file content' mode' => cases hcontent
      | directory mode' => rfl

/-- A path that leads to a directory leads there wherever the directories are as they were. -/
theorem locate_of_directories {w w' : Workspace} (hdirectory : w'.directory = w.directory)
    (hdirs : ∀ {loc mode}, w.disk.get? loc = some (.directory mode) →
      w'.disk.get? loc = some (.directory mode)) {path : String} {loc : Location} {mode : Nat}
    (hlocate : w.locate path = .ok loc) (hdir : w.disk.get? loc = some (.directory mode)) :
    w'.locate path = .ok loc := by
  have hwalk := walk_of_locate hlocate
  have hwalk' : w'.disk.walk (w'.origin path) (Path.parts path) =
      w.disk.walk (w.origin path) (Path.parts path) := by
    rw [origin_eq_of_directory hdirectory, hwalk, Disk.walk_of_directories hdirs hwalk]
  have hdir' := hdirs hdir
  rw [eq_place_of_locate hlocate] at hdir hdir'
  rw [locate_eq_of_walk hwalk' hdir hdir' rfl, hlocate]

/-- A path that leads to a directory leads there ever after. -/
theorem Changes.locate_of_directory {places : List Location} {w w' : Workspace}
    (hchanges : w.Changes places w') {path : String} {loc : Location} {mode : Nat}
    (hlocate : w.locate path = .ok loc) (hdir : w.disk.get? loc = some (.directory mode)) :
    w'.locate path = .ok loc :=
  locate_of_directories hchanges.directory hchanges.disk.directory hlocate hdir

/-- What a path leads to is still there, with the same content if it was not written. -/
theorem Changes.node_eq {places : List Location} {w w' : Workspace}
    (hchanges : w.Changes places w') (hw : w.WellFormed) {path : String}
    (hfree : w.place path ∉ places) {n : Node} (hnode : w.node path = .ok n) :
    ∃ n', w'.node path = .ok n' ∧ n'.content? = n.content? := by
  obtain ⟨hlocate, hget⟩ := exists_of_node hnode
  have hplace := hchanges.place_eq path
  have hwalk : w'.disk.walk (w'.origin path) (Path.parts path) = .ok (w.place path) := by
    rw [origin_eq_of_directory hchanges.directory]
    exact hchanges.disk.walk_eq (walk_of_locate hlocate)
  cases n with
  | file content mode =>
      have hcontent : w.contentAt path = some content := by
        rw [contentAt, Disk.content?, hget]
        rfl
      obtain ⟨mode', hget'⟩ :=
        exists_file_of_contentAt ((hchanges.contentAt_eq hw hfree).trans hcontent)
      rw [hplace] at hget'
      have hlocate' : w'.locate path = w.locate path :=
        locate_eq_of_walk (hwalk.trans (walk_of_locate hlocate).symm) hget hget' rfl
      rw [hlocate, ← hplace] at hlocate'
      rw [← hplace] at hget'
      exact ⟨_, node_of_locate hlocate' hget', rfl⟩
  | directory mode =>
      have hget' := hchanges.disk.directory hget
      have hlocate' := hchanges.locate_of_directory hlocate hget
      rw [← hplace] at hget' hlocate'
      exact ⟨_, node_of_locate hlocate' hget', rfl⟩

end Workspace

end Phrasebook
