import Phrasebook.Proofs.Disk.Making

/-!
Two workspaces of which one is ahead of the other.

The one that is ahead may have directories that the other lacks. Where a path goes the same way in
both, what it reads is the same, and so is what becomes of a write to it, since the write makes the
missing directories. After the write the one is ahead of the other as before.
-/

namespace Phrasebook

open Disk (Content Location Node newDirectoryMode newFileMode)

namespace Disk

/-- What is at a location, whatever its permissions: nothing, a directory, or a file with its
content. -/
def kind? (disk : Disk) (loc : Location) : Option (Option Content) :=
  (disk.get? loc).map Node.content?

theorem kind?_of_get? {disk : Disk} {loc : Location} {node : Node} (h : disk.get? loc = some node) :
    disk.kind? loc = some node.content? := by
  rw [kind?, h]
  rfl

theorem kind?_eq_none_iff {disk : Disk} {loc : Location} :
    disk.kind? loc = none ↔ disk.get? loc = none := by
  rw [kind?, Option.map_eq_none_iff]

theorem kind?_eq_directory_iff {disk : Disk} {loc : Location} :
    disk.kind? loc = some none ↔ ∃ mode, disk.get? loc = some (.directory mode) := by
  unfold kind?
  rcases disk.get? loc with _ | ⟨content, mode⟩ | mode <;> simp [Node.content?]

theorem kind?_eq_file_iff {disk : Disk} {loc : Location} {content : Content} :
    disk.kind? loc = some (some content) ↔
      ∃ mode, disk.get? loc = some (.file content mode) := by
  unfold kind?
  rcases disk.get? loc with _ | ⟨content', mode⟩ | mode <;> simp [Node.content?]

theorem content?_eq_join (disk : Disk) (loc : Location) :
    disk.content? loc = (disk.kind? loc).join := by
  unfold content? kind?
  rcases disk.get? loc with _ | node <;> rfl

theorem Changes.kind?_directory {places : List Location} {disk disk' : Disk}
    (h : Changes places disk disk') {loc : Location} (hdir : disk.kind? loc = some none) :
    disk'.kind? loc = some none := by
  obtain ⟨mode, hnode⟩ := kind?_eq_directory_iff.mp hdir
  exact kind?_eq_directory_iff.mpr ⟨mode, h.directory hnode⟩

end Disk

namespace Workspace

/-- The second workspace is ahead of the first: at the locations that they share it may have a
directory where the first has nothing, and at those that count exactly it may not. -/
structure Trails (shared exact : Location → Prop) (first second : Workspace) : Prop where
  directory : second.directory = first.directory
  rooted : first.Rooted
  present : second.disk.kind? second.directory = some none
  formed : first.WellFormed ∧ second.WellFormed
  node : ∀ loc, shared loc → second.disk.kind? loc = first.disk.kind? loc ∨
    first.disk.kind? loc = none ∧ second.disk.kind? loc = some none
  same : ∀ loc, exact loc → second.disk.kind? loc = first.disk.kind? loc

/-- A path that goes down by names from a directory which both workspaces reach. -/
def Tracks (shared : Location → Prop) (first second : Workspace) (path : String) : Prop :=
  ∃ (front : List Path.Part) (loc : Location) (names : List String),
    Path.parts path = front ++ names.map .name ∧
    first.disk.walk (first.origin path) front = .ok loc ∧
    second.disk.walk (second.origin path) front = .ok loc ∧
    first.disk.kind? loc = some none ∧ second.disk.kind? loc = some none ∧
    ∀ down, down <+: names → down ≠ [] → shared (loc ++ down)

section Walk

variable {shared exact : Location → Prop} {first second : Workspace} {path : String}

/-- Down from a directory of both, the first workspace sees what the second sees, or nothing. -/
theorem Trails.walk_names (h : Trails shared exact first second) {loc : Location}
    {names : List String} (hdir : first.disk.kind? loc = some none)
    (hdir' : second.disk.kind? loc = some none)
    (hshared : ∀ down, down <+: names → down ≠ [] → shared (loc ++ down)) :
    (first.disk.walk loc (names.map .name) = .ok (loc ++ names) ∧
      second.disk.walk loc (names.map .name) = .ok (loc ++ names)) ∨
    (∃ e, e ≠ .missing ∧ first.disk.walk loc (names.map .name) = .error e ∧
      second.disk.walk loc (names.map .name) = .error e) ∨
    (first.disk.walk loc (names.map .name) = .error .missing ∧
      first.disk.get? (loc ++ names) = none) := by
  induction names generalizing loc with
  | nil => exact Or.inl ⟨by simp [Disk.walk], by simp [Disk.walk]⟩
  | cons name names ih =>
      obtain ⟨mode, hget⟩ := Disk.kind?_eq_directory_iff.mp hdir
      obtain ⟨mode', hget'⟩ := Disk.kind?_eq_directory_iff.mp hdir'
      by_cases hlong : name.utf8ByteSize > maxNameLength
      · refine Or.inr (Or.inl ⟨.nameTooLong, by simp, ?_, ?_⟩)
        · simp [Disk.walk, Disk.step, hget, hlong]
        · simp [Disk.walk, Disk.step, hget', hlong]
      · have hstep : first.disk.walk loc ((name :: names).map .name) =
            first.disk.walk (loc ++ [name]) (names.map .name) := by
          simp [Disk.walk, Disk.step, hget, hlong]
        have hstep' : second.disk.walk loc ((name :: names).map .name) =
            second.disk.walk (loc ++ [name]) (names.map .name) := by
          simp [Disk.walk, Disk.step, hget', hlong]
        have happend : loc ++ name :: names = (loc ++ [name]) ++ names := by simp
        rw [hstep, hstep', happend]
        cases names with
        | nil => exact Or.inl ⟨by simp [Disk.walk], by simp [Disk.walk]⟩
        | cons next names =>
            -- The next step decides: what the first workspace has there, the second has too.
            have hnext := h.node (loc ++ [name]) (hshared [name] ⟨_, rfl⟩ (by simp))
            rcases hnode : first.disk.get? (loc ++ [name]) with _ | ⟨content, fmode⟩ | dmode
            · refine Or.inr (Or.inr ⟨by simp [Disk.walk, Disk.step, hnode], ?_⟩)
              rcases hlast : first.disk.get? (loc ++ [name] ++ next :: names) with _ | node
              · rfl
              · obtain ⟨node', hfound⟩ := h.rooted.get?_of_prefix (List.prefix_append _ _) hlast
                rw [hnode] at hfound
                cases hfound
            · rw [Disk.kind?_of_get? hnode] at hnext
              rcases hnext with hnext | ⟨hnone, -⟩
              · obtain ⟨fmode', hnode'⟩ := Disk.kind?_eq_file_iff.mp hnext
                refine Or.inr (Or.inl ⟨.notDirectory, by simp, ?_, ?_⟩)
                · simp [Disk.walk, Disk.step, hnode]
                · simp [Disk.walk, Disk.step, hnode']
              · cases hnone
            · rw [Disk.kind?_of_get? hnode] at hnext
              rcases hnext with hnext | ⟨hnone, -⟩
              · refine ih (Disk.kind?_of_get? hnode) hnext fun down hdown hne => ?_
                have hmore := hshared (name :: down) (List.cons_prefix_cons.mpr ⟨rfl, hdown⟩)
                  (by simp)
                simpa using hmore
              · cases hnone

theorem Tracks.place_eq (ht : Tracks shared first second path) :
    ∃ loc names, first.place path = loc ++ names ∧ first.disk.kind? loc = some none ∧
      second.disk.kind? loc = some none ∧
      ∀ down, down <+: names → down ≠ [] → shared (loc ++ down) := by
  obtain ⟨front, loc, names, hparts, hwalk, -, hdir, hdir', hshared⟩ := ht
  exact ⟨loc, names, Steady.place_eq hparts hwalk, hdir, hdir', hshared⟩

/-- A path leads to one place in both workspaces, or fails in both for one reason, unless what it
leads to is missing in the first. -/
theorem Trails.route (h : Trails shared exact first second)
    (ht : Tracks shared first second path) :
    (first.route path = .ok (first.place path) ∧ second.route path = .ok (first.place path)) ∨
    (∃ e, e ≠ .missing ∧ first.route path = .error e ∧ second.route path = .error e) ∨
    (first.route path = .error .missing ∧ first.disk.get? (first.place path) = none) := by
  obtain ⟨front, loc, names, hparts, hwalk, hwalk', hdir, hdir', hshared⟩ := ht
  have hroute : first.route path = first.disk.walk loc (names.map .name) := by
    rw [Workspace.route, hparts, Disk.walk_append, hwalk]
    rfl
  have hroute' : second.route path = second.disk.walk loc (names.map .name) := by
    rw [Workspace.route, hparts, Disk.walk_append, hwalk']
    rfl
  rw [hroute, hroute', Steady.place_eq hparts hwalk]
  exact h.walk_names hdir hdir' hshared

theorem Trails.kind (h : Trails shared exact first second)
    (ht : Tracks shared first second path) :
    second.disk.kind? (first.place path) = first.disk.kind? (first.place path) ∨
      first.disk.kind? (first.place path) = none ∧
        second.disk.kind? (first.place path) = some none := by
  obtain ⟨loc, names, hplace, hdir, hdir', hshared⟩ := ht.place_eq
  rw [hplace]
  by_cases hnames : names = []
  · rw [hnames, List.append_nil]
    exact Or.inl (hdir'.trans hdir.symm)
  · exact h.node _ (hshared names (List.prefix_refl _) hnames)

/-- A path that begins like one which goes the same way in both does so too. -/
theorem Tracks.of_prefix (ht : Tracks shared first second path)
    (hdirectory : second.directory = first.directory) {above : String}
    (hparts : Path.parts above <+: Path.parts path)
    (habsolute : Path.isAbsolute above = Path.isAbsolute path) :
    Tracks shared first second above := by
  obtain ⟨front, loc, names, hsplit, hwalk, hwalk', hdir, hdir', hshared⟩ := ht
  have horigin : ∀ w : Workspace, w.origin path = w.origin above := fun w => by
    rw [origin, origin, habsolute]
  rw [horigin] at hwalk hwalk'
  obtain ⟨rest, hrest⟩ := hparts
  rw [hsplit] at hrest
  rcases List.append_eq_append_iff.mp hrest with ⟨more, hfront, -⟩ | ⟨more, habove, hnames⟩
  · have hreach : ∀ w : Workspace, w.disk.walk (w.origin above) front = .ok loc →
        w.disk.kind? loc = some none →
        ∃ mid, w.disk.walk (w.origin above) (Path.parts above) = .ok mid ∧
          w.disk.kind? mid = some none := by
      intro w hw hdir
      rw [hfront, Disk.walk_append] at hw
      obtain ⟨mid, hmid, hmore⟩ := exists_of_bind_eq_ok hw
      refine ⟨mid, hmid, ?_⟩
      cases more with
      | nil =>
          obtain rfl := Except.ok.inj hmore
          exact hdir
      | cons part more =>
          rcases hnode : w.disk.get? mid with _ | ⟨content, mode⟩ | mode
          · simp [Disk.walk, Disk.step, hnode] at hmore
          · simp [Disk.walk, Disk.step, hnode] at hmore
          · exact Disk.kind?_of_get? hnode
    obtain ⟨mid, hmid, hkind⟩ := hreach first hwalk hdir
    obtain ⟨mid', hmid', hkind'⟩ := hreach second hwalk' hdir'
    obtain rfl : mid = mid' := by
      rw [← Disk.foldl_follow_of_walk hmid, ← Disk.foldl_follow_of_walk hmid',
        origin_eq_of_directory hdirectory]
    refine ⟨Path.parts above, mid, [], by simp, hmid, hmid', hkind, hkind', ?_⟩
    intro down hdown hne
    exact absurd (List.prefix_nil.mp hdown) hne
  · obtain ⟨names', rest', rfl, rfl, -⟩ := List.map_eq_append_iff.mp hnames
    refine ⟨front, loc, names', habove, hwalk, hwalk', hdir, hdir', ?_⟩
    exact fun down hdown hne => hshared down (hdown.trans (List.prefix_append _ _)) hne

theorem Tracks.changes {places places' : List Location} {first' second' : Workspace}
    (ht : Tracks shared first second path) (hchanges : first.Changes places first')
    (hchanges' : second.Changes places' second') : Tracks shared first' second' path := by
  obtain ⟨front, loc, names, hparts, hwalk, hwalk', hdir, hdir', hshared⟩ := ht
  refine ⟨front, loc, names, hparts, ?_, ?_, hchanges.disk.kind?_directory hdir,
    hchanges'.disk.kind?_directory hdir', hshared⟩
  · rw [origin_eq_of_directory hchanges.directory]
    exact hchanges.disk.walk_eq hwalk
  · rw [origin_eq_of_directory hchanges'.directory]
    exact hchanges'.disk.walk_eq hwalk'

theorem Trails.tracks_here (h : Trails shared exact first second) :
    Tracks shared first second "." := by
  have hwalk : ∀ w : Workspace, w.disk.kind? w.directory = some none →
      w.disk.walk (w.origin ".") [.here] = .ok w.directory := by
    intro w hw
    obtain ⟨mode, hdir⟩ := Disk.kind?_eq_directory_iff.mp hw
    have horigin : w.origin "." = w.directory := rfl
    simp [horigin, Disk.walk, Disk.step, hdir]
  have hfirst : first.disk.kind? first.directory = some none :=
    Disk.kind?_eq_directory_iff.mpr h.rooted.directory
  refine ⟨[.here], first.directory, [], rfl, hwalk first hfirst, ?_, hfirst, ?_, ?_⟩
  · rw [← h.directory]
    exact hwalk second h.present
  · rw [← h.directory]
    exact h.present
  · intro down hdown hne
    exact absurd (List.prefix_nil.mp hdown) hne

end Walk

section Make

variable {shared exact : Location → Prop} {first second first' second' : Workspace}
  {path : String} {loc : Location}

/-- Nothing comes between the two if both change at one location, and are the same there. -/
theorem Trails.update {places places' : List Location} (h : Trails shared exact first second)
    (hkeeps : first.Keeps [loc] (fun _ => False) first')
    (hkeeps' : second.Keeps [loc] (fun _ => False) second')
    (hchanges : first.Changes places first') (hchanges' : second.Changes places' second')
    (hrooted : first'.Rooted) (hsame : second'.disk.kind? loc = first'.disk.kind? loc) :
    Trails shared exact first' second' := by
  have hkind : ∀ {w w' : Workspace}, w.Keeps [loc] (fun _ => False) w' →
      ∀ other ≠ loc, w'.disk.kind? other = w.disk.kind? other := by
    intro w w' hw other hother
    rcases hw.node other (by simpa using hother) with hnode | ⟨-, -, hfalse⟩
    · rw [Disk.kind?, hnode, Disk.kind?]
    · exact hfalse.elim
  refine ⟨?_, hrooted, ?_, ⟨hchanges.wellFormed h.formed.1, hchanges'.wellFormed h.formed.2⟩,
    fun other hother => ?_, fun other hother => ?_⟩
  · rw [hkeeps.directory, hkeeps'.directory, h.directory]
  · rw [hkeeps'.directory]
    exact hchanges'.disk.kind?_directory h.present
  · by_cases heq : other = loc
    · exact Or.inl (heq ▸ hsame)
    · rw [hkind hkeeps other heq, hkind hkeeps' other heq]
      exact h.node other hother
  · by_cases heq : other = loc
    · exact heq ▸ hsame
    · rw [hkind hkeeps other heq, hkind hkeeps' other heq]
      exact h.same other hother

theorem kind?_withNode {w : Workspace} (hloc : loc ≠ []) (node : Node) :
    (w.withNode loc node).disk.kind? loc = some node.content? :=
  Disk.kind?_of_get? (Disk.get?_set_self w.disk hloc node)

theorem changes_withDirectory {w : Workspace} (hw : w.WellFormed)
    (hlocate : w.locate path = .ok loc) (hnone : w.disk.get? loc = none) :
    w.Changes [] (w.withNode loc (.directory newDirectoryMode)) := by
  have hmade : w.makeDirectory path = .ok (w.withNode loc (.directory newDirectoryMode)) := by
    simp [makeDirectory, hlocate, hnone]
  exact changes_of_makeDirectory hw hmade

/-- A directory that the first workspace lacks is made there, and in the second one made or
found. -/
theorem Trails.tryDirectory_of_none (h : Trails shared exact first second)
    (hreadable : Readable path) (hroute : first.route path = .ok loc)
    (hroute' : second.route path = .ok loc) (hnode : first.disk.get? loc = none)
    (hkind : second.disk.kind? loc = none ∨ second.disk.kind? loc = some none) :
    (second.tryDirectory path).2 = (first.tryDirectory path).2 ∧
      Trails shared exact (first.tryDirectory path).1 (second.tryDirectory path).1 := by
  have hroot := Disk.ne_root_of_get?_eq_none hnode
  have hlocate := locate_of_route hreadable hroute (by simp [hnode])
  have hrooted := h.rooted.withNode hroute (by simp [hnode]) (.directory newDirectoryMode)
  have hchanges := changes_withDirectory h.formed.1 hlocate hnode
  rw [Workspace.tryDirectory_of_none hlocate hnode]
  rcases hkind with hkind | hkind
  · have hnode' := Disk.kind?_eq_none_iff.mp hkind
    have hlocate' := locate_of_route hreadable hroute' (by simp [hnode'])
    rw [Workspace.tryDirectory_of_none hlocate' hnode']
    refine ⟨rfl, h.update (keeps_withNode ..) (keeps_withNode ..) hchanges
      (changes_withDirectory h.formed.2 hlocate' hnode') hrooted ?_⟩
    rw [kind?_withNode hroot, kind?_withNode hroot]
  · obtain ⟨mode, hnode'⟩ := Disk.kind?_eq_directory_iff.mp hkind
    have hlocate' := locate_of_route hreadable hroute' (by simp [hnode'])
    rw [tryDirectory_of_directory hlocate' hnode']
    have hstay : second.Changes [] second := .refl h.formed.2
    refine ⟨rfl, h.update (keeps_withNode ..) (.refl second) hchanges hstay hrooted ?_⟩
    rw [kind?_withNode hroot, hkind]
    rfl

/-- A directory that the first workspace can be asked for is made or found in both. -/
theorem Trails.tryDirectory (h : Trails shared exact first second)
    (ht : Tracks shared first second path) (hfound : first.locate path ≠ .error .missing) :
    (second.tryDirectory path).2 = (first.tryDirectory path).2 ∧
      Trails shared exact (first.tryDirectory path).1 (second.tryDirectory path).1 := by
  by_cases hreadable : Readable path
  case neg =>
    obtain ⟨hsame, e, he⟩ := locate_of_not_readable hreadable first second
    rw [tryDirectory_of_error he, tryDirectory_of_error (hsame.trans he)]
    exact ⟨rfl, h⟩
  rcases h.route ht with ⟨hroute, hroute'⟩ | ⟨e, -, hroute, hroute'⟩ | ⟨hroute, -⟩
  · have hkind := h.kind ht
    generalize first.place path = loc at hroute hroute' hkind
    rcases hnode : first.disk.get? loc with _ | ⟨content, mode⟩ | mode
    · rw [Disk.kind?_eq_none_iff.mpr hnode] at hkind
      exact h.tryDirectory_of_none hreadable hroute hroute' hnode (hkind.imp id And.right)
    · rw [Disk.kind?_of_get? hnode] at hkind
      rcases hkind with hkind | ⟨hnone, -⟩
      · obtain ⟨mode', hnode'⟩ := Disk.kind?_eq_file_iff.mp hkind
        by_cases hopen : endsOpen path = true
        · rw [tryDirectory_of_error (locate_of_route_file hreadable hroute hnode hopen),
            tryDirectory_of_error (locate_of_route_file hreadable hroute' hnode' hopen)]
          exact ⟨rfl, h⟩
        · have hclosed : endsOpen path = false := by simpa using hopen
          rw [tryDirectory_of_file (locate_of_route hreadable hroute fun _ _ _ => hclosed) hnode,
            tryDirectory_of_file (locate_of_route hreadable hroute' fun _ _ _ => hclosed) hnode']
          exact ⟨rfl, h⟩
      · cases hnone
    · rw [Disk.kind?_of_get? hnode] at hkind
      rcases hkind with hkind | ⟨hnone, -⟩
      · obtain ⟨mode', hnode'⟩ := Disk.kind?_eq_directory_iff.mp hkind
        rw [tryDirectory_of_directory (locate_of_route hreadable hroute (by simp [hnode])) hnode,
          tryDirectory_of_directory (locate_of_route hreadable hroute' (by simp [hnode'])) hnode']
        exact ⟨rfl, h⟩
      · cases hnone
  · rw [tryDirectory_of_error (locate_of_route_error hreadable hroute),
      tryDirectory_of_error (locate_of_route_error hreadable hroute')]
    exact ⟨rfl, h⟩
  · exact absurd (locate_of_route_error hreadable hroute) hfound

theorem Readable.of_prefix {above : String} (h : Readable path)
    (htext : above.toList <+: path.toList) (hne : above ≠ "") : Readable above := by
  obtain ⟨rest, hrest⟩ := htext
  obtain rfl : path = above ++ String.ofList rest := String.toList_inj.mp (by simp [hrest])
  refine ⟨?_, hne, ?_⟩
  · have hzero := h.zero
    rw [String.toList_append, List.contains_append, Bool.or_eq_false_iff] at hzero
    exact hzero.1
  · have hshort := h.short
    rw [String.utf8ByteSize_append] at hshort
    exact Nat.le_trans (Nat.le_add_right _ _) hshort

theorem Trails.locate_ne_missing (h : Trails shared exact first second)
    (ht : Tracks shared first second path) (hne : path ≠ "")
    (hfound : first.locate path ≠ .error .missing) : second.locate path ≠ .error .missing := by
  intro hmissing
  obtain ⟨hreadable, hroute''⟩ := route_of_locate_missing hne hmissing
  rcases h.route ht with ⟨-, hroute'⟩ | ⟨e, he, -, hroute'⟩ | ⟨hroute, -⟩
  · rw [hroute'] at hroute''
    cases hroute''
  · rw [hroute'] at hroute''
    exact he (Except.error.inj hroute'')
  · exact hfound (locate_of_route_error hreadable hroute)

/-- What is missing in the first workspace only lies in a directory that the second has, or cannot
be reached there for a reason that holds one step before. -/
theorem Trails.makeAlong_ahead (h : Trails shared exact first second) {above : String}
    {rest : List String} (ht : above ≠ "" → Tracks shared first second above)
    (hextends : Path.Extends path above) (htext : above.toList <+: path.toList)
    (hmissing : first.locate path = .error .missing)
    (hfound : second.locate path ≠ .error .missing) :
    second.makeAlong (above :: rest) = (second, none) ∨
      ∃ e, second.locate path = .error e ∧
        second.makeAlong (above :: rest) = (second, some e) := by
  by_cases hne : above = ""
  · exact Or.inl (by simp [makeAlong, hne])
  obtain ⟨hreadable, hroute⟩ := route_of_locate_missing hextends.ne_empty hmissing
  have habove := hreadable.of_prefix htext hne
  obtain ⟨part, hstep⟩ := route_of_extends second hextends
  have hpath : second.route path ≠ .error .missing :=
    fun hnone => hfound (locate_of_route_error hreadable hnone)
  cases habove' : second.route above with
  | error e =>
      have hroute' : second.route path = .error e := by rw [hstep, habove']; rfl
      have hlocate' := locate_of_route_error habove habove'
      have hne' : second.locate above ≠ .error .missing := by
        intro hnone
        rw [hlocate'] at hnone
        obtain rfl := Except.error.inj hnone
        exact hpath hroute'
      refine Or.inr ⟨e, locate_of_route_error hreadable hroute', ?_⟩
      rw [makeAlong_of_found hne hne', tryDirectory_of_error hlocate']
  | ok loc =>
      rw [habove'] at hstep
      change second.route path = second.disk.step loc part at hstep
      rcases hnode : second.disk.get? loc with _ | ⟨content, mode⟩ | mode
      · rw [hstep, Disk.step.eq_def, hnode] at hpath
        exact absurd rfl hpath
      · -- A file would stop the way in the first workspace too, for another reason.
        obtain rfl : first.place above = loc := by
          rw [← place_eq_of_directory h.directory]
          exact Disk.foldl_follow_of_walk habove'
        have hfile : ∃ mode, first.disk.get? (first.place above) = some (.file content mode) := by
          rcases h.kind (ht hne) with hkind | ⟨-, hkind⟩
          · rw [Disk.kind?_of_get? hnode] at hkind
            exact Disk.kind?_eq_file_iff.mp hkind.symm
          · rw [Disk.kind?_of_get? hnode] at hkind
            cases hkind
        obtain ⟨mode', hfile⟩ := hfile
        obtain ⟨part', hstep'⟩ := route_of_extends first hextends
        rcases h.route (ht hne) with ⟨hok, -⟩ | ⟨e, -, -, herror⟩ | ⟨-, hnone⟩
        · rw [hok, hroute] at hstep'
          simp [Except.bind, Disk.step, hfile] at hstep'
        · rw [habove'] at herror
          cases herror
        · rw [hfile] at hnone
          cases hnone
      · have hlocate' := locate_of_route habove habove' (by simp [hnode])
        refine Or.inl ?_
        rw [makeAlong_of_found hne (by rw [hlocate']; simp),
          tryDirectory_of_directory hlocate' hnode]

/-- Making directories comes to the same end in both workspaces. -/
theorem Trails.makeAlong (h : Trails shared exact first second) {paths : List String}
    (hladder : Path.Ladder paths)
    (ht : ∀ path ∈ paths, path ≠ "" → Tracks shared first second path) :
    (second.makeAlong paths).2 = (first.makeAlong paths).2 ∧
      Trails shared exact (first.makeAlong paths).1 (second.makeAlong paths).1 := by
  induction hladder with
  | start => exact ⟨rfl, h⟩
  | root =>
      have hroot := ht "/" List.mem_cons_self (by simp)
      have hfound : first.locate "/" ≠ .error .missing := by
        intro hmissing
        obtain ⟨-, hroute⟩ := route_of_locate_missing (by simp) hmissing
        cases (show first.route "/" = .ok [] from rfl).symm.trans hroute
      rw [makeAlong_of_found (by simp) hfound,
        makeAlong_of_found (by simp) (h.locate_ne_missing hroot (by simp) hfound)]
      exact h.tryDirectory hroot hfound
  | step hextends htext hrest ih =>
      rename_i path above rest
      have hne := hextends.ne_empty
      have htpath := ht path List.mem_cons_self hne
      have htabove := fun hne => ht above (List.mem_cons_of_mem _ List.mem_cons_self) hne
      obtain ⟨hresult, hmade⟩ := ih fun path hpath => ht path (List.mem_cons_of_mem _ hpath)
      by_cases hmissing : first.locate path = .error .missing
      case neg =>
        -- Nothing above the path is missing, in either workspace.
        rw [makeAlong_of_found hne hmissing,
          makeAlong_of_found hne (h.locate_ne_missing htpath hne hmissing)]
        exact h.tryDirectory htpath hmissing
      have hchanges := changes_makeAlong h.formed.1 (above :: rest)
      have hchanges' := changes_makeAlong h.formed.2 (above :: rest)
      rcases hfirst : first.makeAlong (above :: rest) with ⟨first', _ | e⟩
      · rw [hfirst] at hresult hmade hchanges
        obtain ⟨loc, mode, hroute, hdir⟩ :=
          exists_directory_of_makeAlong h.formed.1 h.rooted hfirst
        have hfound := locate_ne_missing_of_extends hextends hroute hdir
        have htpath' := htpath.changes hchanges hchanges'
        rw [makeAlong_of_made hne hmissing hfirst]
        by_cases hmissing' : second.locate path = .error .missing
        · rw [makeAlong_of_made hne hmissing' (eq_mk_of_snd_eq hresult)]
          exact hmade.tryDirectory htpath' hfound
        · -- The second workspace has all that the first one had to make.
          rw [makeAlong_of_found hne hmissing']
          rcases h.makeAlong_ahead htabove hextends htext hmissing hmissing' with
            hstay | ⟨e, -, hfailed⟩
          · rw [hstay] at hmade htpath'
            exact hmade.tryDirectory htpath' hfound
          · rw [hfailed] at hresult
            cases hresult
      · rw [hfirst] at hresult hmade
        rw [makeAlong_of_failed hne hmissing hfirst]
        by_cases hmissing' : second.locate path = .error .missing
        · rw [makeAlong_of_failed hne hmissing' (eq_mk_of_snd_eq hresult)]
          exact ⟨rfl, hmade⟩
        · -- What the first one could not make is what stands in the way of the second.
          rw [makeAlong_of_found hne hmissing']
          rcases h.makeAlong_ahead htabove hextends htext hmissing hmissing' with
            hstay | ⟨e', hlocate', hfailed⟩
          · rw [hstay] at hresult
            cases hresult
          · rw [hfailed] at hresult hmade
            rw [tryDirectory_of_error hlocate']
            exact ⟨hresult, hmade⟩

end Make

section Replace

variable {shared exact : Location → Prop} {first second : Workspace} {path : String}

/-- A path that can be looked up in the first workspace leads to the same place in both, if what is
there counts exactly. -/
theorem Trails.locate_eq (h : Trails shared exact first second)
    (ht : Tracks shared first second path) (hexact : exact (first.place path))
    (hfound : first.locate path ≠ .error .missing ∨ path = "") :
    second.locate path = first.locate path := by
  by_cases hreadable : Readable path
  case neg => exact (locate_of_not_readable hreadable first second).1
  have hfound' : first.locate path ≠ .error .missing := by
    rcases hfound with hfound | hempty
    · exact hfound
    · exact absurd hempty hreadable.nonempty
  have hkind := h.same _ hexact
  rcases h.route ht with ⟨hroute, hroute'⟩ | ⟨e, -, hroute, hroute'⟩ | ⟨hroute, -⟩
  · generalize first.place path = loc at hroute hroute' hkind
    by_cases hfile : endsOpen path = true ∧ ∃ content mode,
        first.disk.get? loc = some (.file content mode)
    · obtain ⟨hopen, content, mode, hnode⟩ := hfile
      rw [Disk.kind?_of_get? hnode] at hkind
      obtain ⟨mode', hnode'⟩ := Disk.kind?_eq_file_iff.mp hkind
      rw [locate_of_route_file hreadable hroute hnode hopen,
        locate_of_route_file hreadable hroute' hnode' hopen]
    · have hclosed : ∀ content mode, first.disk.get? loc = some (.file content mode) →
          endsOpen path = false := by
        intro content mode hnode
        exact Bool.eq_false_iff.mpr fun hopen => hfile ⟨hopen, content, mode, hnode⟩
      have hclosed' : ∀ content mode, second.disk.get? loc = some (.file content mode) →
          endsOpen path = false := by
        intro content mode hnode'
        rw [Disk.kind?_of_get? hnode'] at hkind
        obtain ⟨mode', hnode⟩ := Disk.kind?_eq_file_iff.mp hkind.symm
        exact hclosed content mode' hnode
      rw [locate_of_route hreadable hroute hclosed, locate_of_route hreadable hroute' hclosed']
  · rw [locate_of_route_error hreadable hroute, locate_of_route_error hreadable hroute']
  · exact absurd (locate_of_route_error hreadable hroute) hfound'

/-- A path reads the same in both workspaces, or it reads nothing in either. -/
theorem Trails.node_cases (h : Trails shared exact first second)
    (ht : Tracks shared first second path) (hexact : exact (first.place path)) :
    (∃ n n', first.node path = .ok n ∧ second.node path = .ok n' ∧ n'.content? = n.content?) ∨
    (∃ e, first.node path = .error e ∧ second.node path = .error e) ∨
    (first.disk.get? (first.place path) = none ∧
      ∃ e e', first.node path = .error e ∧ second.node path = .error e') := by
  have hkind := h.same _ hexact
  by_cases hfound : first.locate path ≠ .error .missing ∨ path = ""
  · have hsame := h.locate_eq ht hexact hfound
    cases hlocate : first.locate path with
    | error e =>
        rw [hlocate] at hsame
        exact Or.inr (Or.inl
          ⟨e, by simp [Workspace.node, hlocate], by simp [Workspace.node, hsame]⟩)
    | ok loc =>
        rw [hlocate] at hsame
        obtain rfl := eq_place_of_locate hlocate
        rcases hnode : first.disk.get? (first.place path) with _ | n
        · have hnode' := Disk.kind?_eq_none_iff.mp (hkind.trans (Disk.kind?_eq_none_iff.mpr hnode))
          exact Or.inr (Or.inl ⟨.missing, by simp [Workspace.node, hlocate, hnode],
            by simp [Workspace.node, hsame, hnode']⟩)
        · rw [Disk.kind?_of_get? hnode] at hkind
          obtain ⟨n', hnode', hcontent⟩ := Option.map_eq_some_iff.mp hkind
          exact Or.inl ⟨n, n', by simp [Workspace.node, hlocate, hnode],
            by simp [Workspace.node, hsame, hnode'], hcontent⟩
  · obtain ⟨hmissing, hne⟩ := not_or.mp hfound
    have hlocate : first.locate path = .error .missing := Classical.not_not.mp hmissing
    obtain ⟨-, hroute⟩ := route_of_locate_missing hne hlocate
    have hnone : first.disk.get? (first.place path) = none := by
      rcases h.route ht with ⟨hroute', -⟩ | ⟨e, he, hroute', -⟩ | ⟨-, hnone⟩
      · rw [hroute] at hroute'
        cases hroute'
      · rw [hroute] at hroute'
        exact absurd (Except.error.inj hroute').symm he
      · exact hnone
    have hnone' := Disk.kind?_eq_none_iff.mp (hkind.trans (Disk.kind?_eq_none_iff.mpr hnone))
    have hnode' : ∃ e', second.node path = .error e' := by
      cases hlocate' : second.locate path with
      | error e' => exact ⟨e', by simp [Workspace.node, hlocate']⟩
      | ok loc =>
          obtain rfl := eq_place_of_locate hlocate'
          rw [← place_eq_of_directory h.directory] at hnone'
          exact ⟨.missing, by simp [Workspace.node, hlocate', hnone']⟩
    obtain ⟨e', hnode'⟩ := hnode'
    exact Or.inr (Or.inr ⟨hnone, .missing, e', by simp [Workspace.node, hlocate], hnode'⟩)

/-- A file that is there reads the same in both workspaces. -/
theorem Trails.readText_eq (h : Trails shared exact first second)
    (ht : Tracks shared first second path) (hexact : exact (first.place path))
    (hthere : first.disk.get? (first.place path) ≠ none) :
    second.readText path = first.readText path := by
  rcases h.node_cases ht hexact with ⟨n, n', hnode, hnode', hcontent⟩ | ⟨e, hnode, hnode'⟩ |
    ⟨hnone, -⟩
  · exact readText_eq_of_node hnode hnode' hcontent
  · simp [readText, hnode, hnode']
  · exact absurd hnone hthere

theorem exists_putFile {w : Workspace} {loc : Location} (hlocate : w.locate path = .ok loc)
    (hfree : w.disk.kind? loc ≠ some none) (content : Content) :
    ∃ mode, w.putFile path content = .ok (w.withNode loc (.file content mode)) := by
  unfold putFile
  rw [hlocate]
  rcases hnode : w.disk.get? loc with _ | ⟨old, mode⟩ | mode
  · exact ⟨newFileMode, by simp [hnode]⟩
  · exact ⟨mode, by simp [hnode]⟩
  · exact absurd (Disk.kind?_of_get? hnode) hfree

/-- A new file takes its place in both workspaces, or in none for one reason. -/
theorem Trails.install (h : Trails shared exact first second)
    (ht : Tracks shared first second path) (hexact : exact (first.place path))
    (hfound : first.locate path ≠ .error .missing ∨ path = "") (content : Content) :
    (∃ e, first.install path content = .error e ∧ second.install path content = .error e) ∨
    ∃ first' second', first.install path content = .ok first' ∧
      second.install path content = .ok second' ∧ Trails shared exact first' second' := by
  have hsame := h.locate_eq ht hexact hfound
  have hkind := h.same _ hexact
  cases hlocate : first.locate path with
  | error e =>
      rw [hlocate] at hsame
      exact Or.inl ⟨e, by simp [Workspace.install, hlocate], by simp [Workspace.install, hsame]⟩
  | ok loc =>
      rw [hlocate] at hsame
      obtain rfl := eq_place_of_locate hlocate
      cases hfit : unfit? path with
      | some e =>
          refine Or.inl ⟨e, ?_, ?_⟩
          · simp [Workspace.install, hlocate, hfit]
          · simp [Workspace.install, hsame, hfit]
      | none =>
          have hinstall : first.install path content = first.putFile path content := by
            simp [Workspace.install, hlocate, hfit]
          have hinstall' : second.install path content = second.putFile path content := by
            simp [Workspace.install, hsame, hfit]
          rw [hinstall, hinstall']
          by_cases hdir : first.disk.kind? (first.place path) = some none
          · obtain ⟨mode, hnode⟩ := Disk.kind?_eq_directory_iff.mp hdir
            obtain ⟨mode', hnode'⟩ := Disk.kind?_eq_directory_iff.mp (hkind.trans hdir)
            exact Or.inl ⟨.isDirectory, by simp [putFile, hlocate, hnode],
              by simp [putFile, hsame, hnode']⟩
          · obtain ⟨mode, hput⟩ := exists_putFile hlocate hdir content
            obtain ⟨mode', hput'⟩ := exists_putFile hsame (by rwa [hkind]) content
            have hroot : first.place path ≠ [] := by
              intro hnil
              exact hdir (Disk.kind?_eq_directory_iff.mpr ⟨newDirectoryMode, by rw [hnil]; rfl⟩)
            have hfree : ∀ mode, first.disk.get? (first.place path) ≠ some (.directory mode) :=
              fun mode hnode => hdir (Disk.kind?_of_get? hnode)
            refine Or.inr ⟨_, _, hput, hput', ?_⟩
            refine h.update (keeps_withNode ..) (keeps_withNode ..)
              (changes_of_putFile h.formed.1 hput).1 (changes_of_putFile h.formed.2 hput').1
              (h.rooted.withNode (walk_of_locate hlocate) hfree _) ?_
            rw [kind?_withNode hroot, kind?_withNode hroot]
            rfl

/-- A write succeeds in both workspaces, or fails in both for one reason. -/
theorem Trails.replace (h : Trails shared exact first second)
    (ht : Tracks shared first second path) (hexact : exact (first.place path))
    (content : Content) :
    (Workspace.replace second path content).2 = (Workspace.replace first path content).2 ∧
      Trails shared exact (Workspace.replace first path content).1
        (Workspace.replace second path content).1 := by
  have hdirectories : ∀ above ∈ directoryOf path :: Path.parents (directoryOf path), above ≠ "" →
      Tracks shared first second above := by
    intro above habove hne
    rcases prefix_of_mem_directories habove hne with rfl | ⟨hparts, habsolute⟩
    · exact h.tracks_here
    · exact ht.of_prefix h.directory hparts habsolute
  obtain ⟨hresult, hmade⟩ := h.makeAlong (ladder_directoryOf path) hdirectories
  rw [← makeDirectories, ← makeDirectories] at hresult hmade
  rcases hfirst : first.makeDirectories (directoryOf path) with ⟨first', _ | e⟩
  · rw [hfirst] at hresult hmade
    have hsecond := eq_mk_of_snd_eq hresult
    have hchanges : first.Changes [] first' := by
      have hall := changes_makeAlong h.formed.1
        (directoryOf path :: Path.parents (directoryOf path))
      rwa [← makeDirectories, hfirst] at hall
    have ht' := ht.changes hchanges
      (changes_makeAlong h.formed.2 (directoryOf path :: Path.parents (directoryOf path)))
    have hfound : first'.locate path ≠ .error .missing ∨ path = "" := by
      by_cases hne : path = ""
      · exact Or.inr hne
      · exact Or.inl (locate_ne_missing_of_makeDirectories h.formed.1 h.rooted hne hfirst)
    rw [← hchanges.place_eq] at hexact
    rcases hmade.install ht' hexact hfound content with ⟨e, hfailed, hfailed'⟩ |
      ⟨first'', second'', hdone, hdone', htrails⟩
    · rw [replace_of_install_error hfirst hfailed, replace_of_install_error hsecond hfailed']
      exact ⟨rfl, hmade⟩
    · rw [replace_of_install hfirst hdone, replace_of_install hsecond hdone']
      exact ⟨rfl, htrails⟩
  · rw [hfirst] at hresult hmade
    rw [replace_of_failed hfirst, replace_of_failed (eq_mk_of_snd_eq hresult)]
    exact ⟨rfl, hmade⟩

end Replace

theorem Changes.kind?_cases {places : List Location} {w w' : Workspace}
    (hchanges : w.Changes places w') (hw : w.WellFormed) {loc : Location} (hloc : loc ∉ places) :
    w'.disk.kind? loc = w.disk.kind? loc ∨
      w.disk.kind? loc = none ∧ w'.disk.kind? loc = some none := by
  have hcontent := hchanges.disk.content?_eq hw.disk hloc
  rw [Disk.content?_eq_join, Disk.content?_eq_join] at hcontent
  rcases hkind : w.disk.kind? loc with _ | _ | content
  · rcases hkind' : w'.disk.kind? loc with _ | _ | content'
    · exact Or.inl rfl
    · exact Or.inr ⟨rfl, rfl⟩
    · rw [hkind, hkind'] at hcontent
      cases hcontent
  · exact Or.inl (hchanges.disk.kind?_directory hkind)
  · rcases hkind' : w'.disk.kind? loc with _ | _ | content'
    · rw [hkind, hkind'] at hcontent
      cases hcontent
    · rw [hkind, hkind'] at hcontent
      cases hcontent
    · rw [hkind, hkind'] at hcontent
      exact Or.inl (congrArg some hcontent)

/-- The second workspace stays ahead while it grows at locations that are not shared. -/
theorem Trails.grow {shared exact : Location → Prop} {places : List Location}
    {first second second' : Workspace} (h : Trails shared exact first second)
    (hgrows : second.Grows places second') (hshared : ∀ loc ∈ places, ¬ shared loc)
    (hexact : ∀ loc, exact loc → loc ∉ places ∧
      ∀ place ∈ places, loc <+: place → second.disk.get? loc ≠ none) :
    Trails shared exact first second' := by
  have hsecond := h.formed.2
  refine ⟨hgrows.directory.trans h.directory, h.rooted, ?_,
    ⟨h.formed.1, hgrows.toChanges.wellFormed hsecond⟩, fun loc hloc => ?_, fun loc hloc => ?_⟩
  · rw [hgrows.directory]
    exact hgrows.disk.kind?_directory h.present
  · have hfree : loc ∉ places := fun hmem => hshared loc hmem hloc
    rcases hgrows.toChanges.kind?_cases hsecond hfree with hsame | ⟨hnone, hdir⟩
    · rw [hsame]
      exact h.node loc hloc
    · rcases h.node loc hloc with hfirst | ⟨-, hfirst⟩
      · exact Or.inr ⟨hfirst ▸ hnone, hdir⟩
      · rw [hnone] at hfirst
        cases hfirst
  · obtain ⟨hfree, hnew⟩ := hexact loc hloc
    rcases hgrows.toChanges.kind?_cases hsecond hfree with hsame | ⟨hnone, hdir⟩
    · exact hsame.trans (h.same loc hloc)
    · have hnone' := Disk.kind?_eq_none_iff.mp hnone
      obtain ⟨mode, hmade⟩ := Disk.kind?_eq_directory_iff.mp hdir
      rcases hgrows.added (by rw [hmade]; simp) with hold | ⟨place, hplace, hprefix⟩
      · exact absurd hnone' hold
      · exact absurd hnone' (hnew place hplace hprefix)

/-- Two workspaces in which some paths read the same and are written in the same way. -/
structure Paired (shared exact : Location → Prop) (paths : List String)
    (first second : Workspace) : Prop extends Trails shared exact first second where
  tracks : ∀ path ∈ paths, Tracks shared first second path
  counts : ∀ path ∈ paths, exact (first.place path)

/-- A write comes to one end in both workspaces, and keeps them a pair. -/
theorem Paired.exists_replace {shared exact : Location → Prop} {paths : List String}
    {first second : Workspace} (h : Paired shared exact paths first second) {path : String}
    (hpath : path ∈ paths) (content : Content) :
    ∃ first' second' failure, Workspace.replace first path content = (first', failure) ∧
      Workspace.replace second path content = (second', failure) ∧
      Paired shared exact paths first' second' := by
  obtain ⟨hresult, htrails⟩ :=
    h.toTrails.replace (h.tracks path hpath) (h.counts path hpath) content
  have hchanges := Writer.mayFail_replace.changes h.formed.1 path content
  have hchanges' := Writer.mayFail_replace.changes h.formed.2 path content
  refine ⟨(Workspace.replace first path content).1, (Workspace.replace second path content).1, _,
    rfl, eq_mk_of_snd_eq hresult, htrails,
    fun other hother => (h.tracks other hother).changes hchanges hchanges', fun other hother => ?_⟩
  rw [hchanges.place_eq]
  exact h.counts other hother

end Workspace

end Phrasebook
