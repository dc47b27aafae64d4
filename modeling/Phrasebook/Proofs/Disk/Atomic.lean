import Phrasebook.Proofs.Disk.Making

/-!
A write in its steps, and what it leaves if one of them fails.

The directory of the file is made, a temporary file is put into it, this is given the content and
the permissions, and it is renamed to the path. Each step can fail. A write that came to its end has
changed one file and made the directories on the way to it. A write that failed has only made
directories: what there was of the temporary file is gone.
-/

namespace Phrasebook

open Disk (Content Location Node newFileMode)

namespace Disk

/-- Takes away what is at a location, and nothing below it. -/
def discard (disk : Disk) (loc : Location) : Disk := ⟨disk.nodes.filter fun p => p.1 ≠ loc⟩

theorem set_set (disk : Disk) (loc : Location) (first second : Node) :
    (disk.set loc first).set loc second = disk.set loc second := by
  obtain ⟨nodes⟩ := disk
  simp only [set, Disk.mk.injEq]
  induction nodes with
  | nil => simp [setNode]
  | cons p nodes ih =>
      obtain ⟨l, node⟩ := p
      by_cases hl : l = loc
      · simp [setNode, hl]
      · simp [setNode, hl, ih]

theorem discard_set {disk : Disk} {loc : Location} (h : disk.get? loc = none) (node : Node) :
    (disk.set loc node).discard loc = disk := by
  obtain ⟨nodes⟩ := disk
  have hmissing : nodes.lookup loc = none := by
    simpa [get?, ne_root_of_get?_eq_none h] using h
  have hothers : ∀ p ∈ nodes, p.1 ≠ loc := by
    intro p hp hloc
    simpa [hloc] using List.lookup_eq_none_iff.mp hmissing p hp
  simp only [discard, set, setNode_of_lookup_eq_none hmissing, Disk.mk.injEq]
  rw [List.filter_append, List.filter_eq_self.mpr (by simpa using hothers)]
  simp

/-- A walk leads through directories. -/
theorem exists_directory_of_walk {disk : Disk} {loc last : Location} {parts front : List Path.Part}
    {part : Path.Part} (h : disk.walk loc parts = .ok last) (hfront : front ++ [part] <+: parts) :
    ∃ mode, disk.get? (front.foldl follow loc) = some (.directory mode) := by
  obtain ⟨rest, rfl⟩ := hfront
  rw [List.append_assoc, walk_append] at h
  obtain ⟨mid, hmid, hrest⟩ := exists_of_bind_eq_ok h
  rw [walk_append, step_singleton] at hrest
  obtain ⟨next, hstep, -⟩ := exists_of_bind_eq_ok hrest
  rw [foldl_follow_of_walk hmid]
  exact exists_directory_of_step hstep

/-- A walk does not meet a file where nothing was, unless something was missing on its way. -/
theorem walk_set_file {disk : Disk} {source : Location} (hfree : disk.get? source = none)
    (content : Content) (mode : Nat) {loc : Location} {parts : List Path.Part}
    (h : disk.walk loc parts ≠ .error .missing) :
    (disk.set source (.file content mode)).walk loc parts = disk.walk loc parts := by
  induction parts generalizing loc with
  | nil => rfl
  | cons part rest ih =>
      rw [walk] at h ⊢
      rw [walk]
      have hloc : loc ≠ source := by
        rintro rfl
        simp [step, hfree] at h
      have hstep : (disk.set source (.file content mode)).step loc part = disk.step loc part := by
        unfold step
        rw [get?_set_of_ne disk hloc]
      rw [hstep]
      cases hnext : disk.step loc part with
      | error e => rfl
      | ok next =>
          rw [hnext] at h
          exact ih h

end Disk

/-- The step at which a write failed, and why. -/
inductive StageError where
  | directory (path : String) (cause : AccessError)
  | temporary (path : String) (cause : AccessError)
  | content (path : String) (cause : AccessError)
  | permissions (path : String) (cause : AccessError)
  | target (path : String) (cause : AccessError)
deriving DecidableEq, Repr

def StageError.ofWrite : WriteError → StageError
  | .directory path cause => .directory path cause
  | .target path cause => .target path cause

/-- What goes wrong with a write although nothing on the disk stands in its way. -/
structure Faults where
  /-- How many of the directories, counted from the nearest, are not even tried to be made. -/
  directory : Option (Nat × AccessError) := none
  temporary : Option AccessError := none
  /-- What the temporary file was given of its content. -/
  content : Option (Content × AccessError) := none
  permissions : Option AccessError := none
  target : Option AccessError := none

/-- Nobody else may look into a temporary file. -/
def temporaryMode : Nat := 0o600

namespace Workspace

/-- The permissions of the file at a location, or those of a new one. -/
def modeAt (w : Workspace) (loc : Location) : Nat :=
  match w.disk.get? loc with
  | some (.file _ mode) => mode
  | _ => newFileMode

/-- The permissions that a file gets which is to take the place that a path names. -/
def modeFor (w : Workspace) (path : String) : Nat :=
  match w.node path with
  | .ok n => n.mode
  | .error _ => newFileMode

/-- Makes an empty file where nothing is. -/
def create (w : Workspace) (path : String) : Except AccessError Workspace :=
  match w.locate path with
  | .error e => .error e
  | .ok loc =>
      if (w.disk.get? loc).isSome then .error .alreadyThere
      else .ok (w.withNode loc (.file (.text "") temporaryMode))

/-- Lets a file take the place that a path names. -/
def rename (w : Workspace) (source : Location) (file : Node) (path : String) :
    Except AccessError Workspace :=
  match w.locate path, unfit? path with
  | .error e, _ => .error e
  | .ok _, some e => .error e
  | .ok loc, none =>
      match w.disk.get? loc with
      | some (.directory _) => .error .isDirectory
      | _ => .ok { w with disk := (w.disk.discard source).set loc file }

/-- Fills a temporary file, gives it its permissions and renames it. -/
def settle (w : Workspace) (f : Faults) (source : Location) (path : String) (content : Content) :
    Workspace × Option StageError :=
  match f.content with
  | some (part, e) =>
      (w.withNode source (.file part temporaryMode), some (.content path e))
  | none =>
      let filled := w.withNode source (.file content temporaryMode)
      match f.permissions with
      | some e => (filled, some (.permissions path e))
      | none =>
          let file := .file content (filled.modeFor path)
          let permitted := filled.withNode source file
          match f.target with
          | some e => (permitted, some (.target path e))
          | none =>
              match permitted.rename source file path with
              | .error e => (permitted, some (.target path e))
              | .ok w => (w, none)

/-- Takes a temporary file away if it did not take its place. -/
def cleared (source : Location) (outcome : Workspace × Option StageError) :
    Workspace × Option StageError :=
  match outcome with
  | (w, some e) => ({ w with disk := w.disk.discard source }, some e)
  | (w, none) => (w, none)

/-- Makes a directory with those above it that are missing, or some of those above it. -/
def makeVia (w : Workspace) (f : Faults) (path : String) : Workspace × Option AccessError :=
  match f.directory with
  | some (n, e) => ((w.makeAlong ((path :: Path.parents path).drop n)).1, some e)
  | none => w.makeDirectories path

/-- Replaces a file step by step. A temporary file that was made does not outlive a failure. -/
def replaceVia (f : Faults) (temporary : String) (w : Workspace) (path : String)
    (content : Content) : Workspace × Option StageError :=
  let directory := directoryOf path
  match w.makeVia f directory with
  | (w, some e) => (w, some (.directory directory e))
  | (w, none) =>
      let source := w.place (Path.join directory temporary)
      match f.temporary, w.create (Path.join directory temporary) with
      | some e, _ => (w, some (.temporary directory e))
      | none, .error e => (w, some (.temporary directory e))
      | none, .ok opened => cleared source (opened.settle f source path content)

/-- The locations that a path leads through before its end. -/
def Approaches (w : Workspace) (path : String) (loc : Location) : Prop :=
  ∃ front part, front ++ [part] <+: Path.parts path ∧ front.foldl Disk.follow (w.origin path) = loc

/-- What a write has done that came to its end. -/
structure Replaced (w : Workspace) (path : String) (content : Content) (w' : Workspace) :
    Prop where
  /-- The path leads to the new content, with the permissions of the file that was there. -/
  file : w'.node path = .ok (.file content (w.modeAt (w.place path)))
  directories : ∀ loc, w.Approaches path loc → ∃ mode, w'.disk.get? loc = some (.directory mode)
  /-- What made way for the file was no directory. -/
  free : ∀ mode, w.disk.get? (w.place path) ≠ some (.directory mode)
  kept : w.Keeps [w.place path] (w.Approaches path) w'

/-- A write replaced the file, or it made no more than directories on the way to it. -/
def Atomic {ε : Type} (w : Workspace) (path : String) (content : Content)
    (outcome : Workspace × Option ε) : Prop :=
  match outcome with
  | (w', none) => w.Replaced path content w'
  | (w', some _) => w.Keeps [] (w.Approaches path) w'

section Directories

variable {w made : Workspace} {path above : String}

theorem exists_part_of_mem_directories
    (h : above ∈ directoryOf path :: Path.parents (directoryOf path)) (hne : above ≠ "")
    (hhere : above ≠ ".") :
    ∃ part, Path.parts above ++ [part] <+: Path.parts path ∧
      Path.isAbsolute above = Path.isAbsolute path := by
  have hstart : above ∉ "." :: Path.parents "." := by
    intro hmem
    rcases List.mem_cons.mp hmem with heq | hmem
    · exact hhere heq
    · exact hne (List.mem_singleton.mp hmem)
  rcases hparents : Path.parents path with _ | ⟨directory, rest⟩
  · exact absurd (by simpa [directoryOf, Path.parent?, hparents] using h) hstart
  by_cases hempty : directory = ""
  · exact absurd (by simpa [directoryOf, Path.parent?, hparents, hempty] using h) hstart
  have hdirectoryOf : directoryOf path = directory := by
    simp [directoryOf, Path.parent?, hparents, hempty]
  rw [hdirectoryOf] at h
  have hpath : path ≠ "" := by
    rintro rfl
    cases hparents
  have hextends := Path.extends_parent hpath hparents
  have hstarts : Path.parts above <+: Path.parts directory ∧
      Path.isAbsolute above = Path.isAbsolute directory := by
    rcases List.mem_cons.mp h with rfl | hmem
    · exact ⟨List.prefix_rfl, rfl⟩
    · exact Path.prefix_of_mem_parents hmem hne
  obtain ⟨⟨more, hmore⟩, habsolute⟩ := hstarts
  obtain ⟨last, hlast⟩ := hextends.parts
  obtain ⟨part, back, hback⟩ := List.exists_cons_of_ne_nil (l := more ++ [last]) (by simp)
  refine ⟨part, ⟨back, ?_⟩, habsolute.trans hextends.absolute.symm⟩
  rw [hlast, ← hmore, List.append_assoc, List.append_assoc, hback]
  rfl

/-- Making directories for a path, or only some of them, makes nothing that the path does not lead
through. -/
theorem keeps_makeVia (w : Workspace) (f : Faults) (path : String) :
    Keeps [] (w.Approaches path) w (w.makeVia f (directoryOf path)).1 := by
  have hsome : ∀ {paths : List String},
      (∀ above ∈ paths, above ∈ directoryOf path :: Path.parents (directoryOf path)) →
        Keeps [] (w.Approaches path) w (w.makeAlong paths).1 := by
    intro paths hpaths
    refine (keeps_makeAlong w paths).mono (fun _ hmem => hmem) ?_
    rintro loc ⟨above, habove, hne, hhere, rfl⟩
    obtain ⟨part, hparts, habsolute⟩ :=
      exists_part_of_mem_directories (hpaths above habove) hne hhere
    refine ⟨Path.parts above, part, hparts, ?_⟩
    rw [origin, ← habsolute, place]
  unfold makeVia
  split
  · exact hsome fun _ => List.mem_of_mem_drop
  · exact hsome fun _ => id

end Directories

section Success

variable {w made view : Workspace} {path : String}

theorem Keeps.get?_eq {onWay : Location → Prop} (h : Keeps [] onWay w made) {loc : Location}
    (hfree : ∀ mode, made.disk.get? loc ≠ some (.directory mode)) :
    made.disk.get? loc = w.disk.get? loc := by
  rcases h.node loc (by simp) with hsame | ⟨-, hdir, -⟩
  · exact hsame
  · exact absurd hdir (hfree _)

/-- A file that takes its place is found there, if the path can be followed at all: `view` is the
disk on which it was followed, and it has no directory that was not made. -/
theorem replaced_of_locate (hmade : Keeps [] (w.Approaches path) w made)
    (hlocate : view.locate path = .ok (made.place path)) (hfit : unfit? path = none)
    (hdirectory : view.directory = made.directory)
    (hdirs : ∀ {loc mode}, view.disk.get? loc = some (.directory mode) →
      made.disk.get? loc = some (.directory mode))
    (hfree : ∀ mode, made.disk.get? (made.place path) ≠ some (.directory mode))
    (content : Content) :
    w.Replaced path content
      (made.withNode (made.place path) (.file content (made.modeAt (made.place path)))) := by
  have hroot : made.place path ≠ [] := fun h => hfree _ (by rw [h]; rfl)
  have hplace : made.place path = w.place path := place_eq_of_directory hmade.directory path
  have hsame := hmade.get?_eq hfree
  -- The file that was put there is none of the directories that a walk to it goes through.
  generalize hfile : (Node.file content (made.modeAt (made.place path))) = file
  have hkeep : ∀ {loc mode}, view.disk.get? loc = some (.directory mode) →
      (made.withNode (made.place path) file).disk.get? loc = some (.directory mode) := by
    intro loc mode hloc
    have hne : loc ≠ made.place path := by
      rintro rfl
      exact hfree mode (hdirs hloc)
    exact (Disk.get?_set_of_ne made.disk hne file).trans (hdirs hloc)
  have hwalk : (made.withNode (made.place path) file).disk.walk
      ((made.withNode (made.place path) file).origin path) (Path.parts path) =
        .ok (made.place path) := by
    have horigin : (made.withNode (made.place path) file).origin path = view.origin path :=
      origin_eq_of_directory hdirectory.symm path
    rw [horigin]
    exact Disk.walk_of_directories hkeep (walk_of_locate hlocate)
  have hmode : made.modeAt (made.place path) = w.modeAt (w.place path) := by
    rw [modeAt, modeAt, hsame, hplace]
  constructor
  · rw [← hmode, hfile]
    refine node_of_locate (locate_of_walk hlocate hwalk (endsOpen_of_unfit? hfit)) ?_
    exact Disk.get?_set_self made.disk hroot file
  · rintro loc ⟨front, part, hfront, rfl⟩
    rw [← origin_eq_of_directory hmade.directory]
    exact Disk.exists_directory_of_walk hwalk hfront
  · intro mode
    rw [← hplace, ← hsame]
    exact hfree mode
  · rw [← hplace]
    exact (hmade.mono (by simp) fun _ h => h).trans (keeps_withNode _ _ _ _)

end Success

section Steps

variable {made opened w' : Workspace} {path : String} {source : Location} {content : Content}

theorem withNode_withNode (w : Workspace) (loc : Location) (first second : Node) :
    (w.withNode loc first).withNode loc second = w.withNode loc second := by
  rw [withNode, withNode, withNode, Disk.set_set]

theorem exists_of_rename {w : Workspace} {file : Node} (h : w.rename source file path = .ok w') :
    w.locate path = .ok (w.place path) ∧ unfit? path = none ∧
      (∀ mode, w.disk.get? (w.place path) ≠ some (.directory mode)) ∧
      w' = { w with disk := (w.disk.discard source).set (w.place path) file } := by
  unfold rename at h
  split at h
  · cases h
  · cases h
  rename_i loc hlocate hfit
  obtain rfl := eq_place_of_locate hlocate
  split at h
  · cases h
  rename_i hnode
  exact ⟨hlocate, hfit, fun mode hdir => hnode mode hdir, (Except.ok.inj h).symm⟩

/-- While a temporary file is filled and permitted nothing else changes, so it is either still there
or has taken its place. -/
theorem settle_cases (hfree : made.disk.get? source = none) (first : Node) (f : Faults)
    (path : String) (content : Content) :
    (∃ node e, (made.withNode source first).settle f source path content =
      (made.withNode source node, some e)) ∨
    ∃ file, file = .file content
        ((made.withNode source (.file content temporaryMode)).modeFor path) ∧
      (made.withNode source file).locate path = .ok (made.place path) ∧ unfit? path = none ∧
      (∀ mode, (made.withNode source file).disk.get? (made.place path) ≠ some (.directory mode)) ∧
      (made.withNode source first).settle f source path content =
        (made.withNode (made.place path) file, none) := by
  unfold settle
  simp only [withNode_withNode]
  split
  · exact Or.inl ⟨_, _, rfl⟩
  split
  · exact Or.inl ⟨_, _, rfl⟩
  split
  · exact Or.inl ⟨_, _, rfl⟩
  split
  · exact Or.inl ⟨_, _, rfl⟩
  rename_i w' hrenamed
  obtain ⟨hlocate, hfit, hnode, rfl⟩ := exists_of_rename hrenamed
  refine Or.inr ⟨_, rfl, hlocate, hfit, hnode, ?_⟩
  simp only [withNode, Disk.discard_set hfree]
  rfl

theorem directory_withFile_iff (hfree : made.disk.get? source = none) {loc : Location}
    {content : Content} {mode mode' : Nat} :
    (made.withNode source (.file content mode)).disk.get? loc = some (.directory mode') ↔
      made.disk.get? loc = some (.directory mode') := by
  by_cases hloc : loc = source
  · have hset := Disk.get?_set_self made.disk (Disk.ne_root_of_get?_eq_none hfree)
      (.file content mode)
    simp [hloc, hfree, withNode, hset]
  · rw [withNode, Disk.get?_set_of_ne made.disk hloc]

/-- A temporary file gets the permissions of the file whose place it takes. -/
theorem modeFor_withFile (hfree : made.disk.get? source = none) (hapart : source ≠ made.place path)
    {mode mode' : Nat}
    (hlocate : (made.withNode source (.file content mode)).locate path = .ok (made.place path))
    (hfit : unfit? path = none)
    (hnode : ∀ mode, made.disk.get? (made.place path) ≠ some (.directory mode)) :
    (made.withNode source (.file content mode')).modeFor path = made.modeAt (made.place path) := by
  have hdirs : ∀ {loc dmode},
      (made.withNode source (.file content mode)).disk.get? loc = some (.directory dmode) →
        (made.withNode source (.file content mode')).disk.get? loc = some (.directory dmode) :=
    fun h => (directory_withFile_iff hfree).mpr ((directory_withFile_iff hfree).mp h)
  have hlocate' : (made.withNode source (.file content mode')).locate path =
      .ok (made.place path) :=
    locate_of_walk hlocate (Disk.walk_of_directories hdirs (walk_of_locate hlocate))
      (endsOpen_of_unfit? hfit)
  have hget : (made.withNode source (.file content mode')).disk.get? (made.place path) =
      made.disk.get? (made.place path) := Disk.get?_set_of_ne made.disk hapart.symm _
  unfold modeFor modeAt node
  simp only [hlocate', hget]
  rcases hfile : made.disk.get? (made.place path) with _ | ⟨old, oldMode⟩ | dmode
  · rfl
  · rfl
  · exact absurd hfile (hnode dmode)

theorem exists_of_create {temporary : String} (h : made.create temporary = .ok opened) :
    made.locate temporary = .ok (made.place temporary) ∧
      made.disk.get? (made.place temporary) = none ∧
      opened = made.withNode (made.place temporary) (.file (.text "") temporaryMode) := by
  unfold create at h
  split at h
  · cases h
  rename_i loc hlocate
  obtain rfl := eq_place_of_locate hlocate
  split at h
  · cases h
  rename_i hfree
  exact ⟨hlocate, by simpa using hfree, (Except.ok.inj h).symm⟩

theorem eq_of_install (h : made.install path content = .ok w') :
    made.locate path = .ok (made.place path) ∧ unfit? path = none ∧
      (∀ mode, made.disk.get? (made.place path) ≠ some (.directory mode)) ∧
      w' = made.withNode (made.place path)
        (.file content (made.modeAt (made.place path))) := by
  obtain ⟨hlocate, hfit, -⟩ := exists_of_install h
  unfold install putFile at h
  rw [hlocate, hfit] at h
  simp only at h
  rcases hold : made.disk.get? (made.place path) with _ | ⟨old, mode⟩ | mode
  · rw [hold] at h
    refine ⟨hlocate, hfit, by simp, ?_⟩
    rw [modeAt, hold]
    exact (Except.ok.inj h).symm
  · rw [hold] at h
    refine ⟨hlocate, hfit, by simp, ?_⟩
    rw [modeAt, hold]
    exact (Except.ok.inj h).symm
  · rw [hold] at h
    cases h

end Steps

section Outcome

variable (w : Workspace) (path : String) (content : Content)

/-- The outcome of a write whose directories were made depends on what becomes of the temporary
file. -/
theorem atomic_settle {made : Workspace} (hmade : Keeps [] (w.Approaches path) w made)
    {source : Location} (hfree : made.disk.get? source = none)
    (hapart : source ≠ made.place path) (first : Node) (f : Faults) :
    w.Atomic path content
      (cleared source ((made.withNode source first).settle f source path content)) := by
  rcases settle_cases hfree first f path content with
    ⟨node, e, hsettle⟩ | ⟨file, hfile, hlocate, hfit, hnode, hsettle⟩
  · rw [hsettle]
    simp only [cleared, withNode, Disk.discard_set hfree]
    exact hmade
  · rw [hsettle]
    subst hfile
    have hnode' : ∀ mode, made.disk.get? (made.place path) ≠ some (.directory mode) :=
      fun mode hdir => hnode mode ((directory_withFile_iff hfree).mpr hdir)
    rw [modeFor_withFile hfree hapart hlocate hfit hnode'] at hlocate ⊢
    exact replaced_of_locate hmade hlocate hfit rfl (directory_withFile_iff hfree).mp hnode' content

/-- Whatever goes wrong, a write in steps is atomic. -/
theorem atomic_replaceVia {temporary : String}
    (hapart : w.place (Path.join (directoryOf path) temporary) ≠ w.place path) (f : Faults) :
    w.Atomic path content (replaceVia f temporary w path content) := by
  have hmade := keeps_makeVia w f path
  unfold replaceVia
  simp only
  split
  · rename_i made e hfailed
    rwa [hfailed] at hmade
  rename_i made hdone
  rw [hdone] at hmade
  have hplace := place_eq_of_directory hmade.directory
  split
  · exact hmade
  · exact hmade
  rename_i opened hopened
  obtain ⟨-, hfree, rfl⟩ := exists_of_create hopened
  exact atomic_settle w path content hmade hfree (by rwa [hplace, hplace]) _ f

theorem atomic_replace : w.Atomic path content (replace w path content) := by
  have hmade := keeps_makeVia w {} path
  rw [makeVia] at hmade
  unfold replace
  simp only
  split
  · rename_i made e hfailed
    rwa [hfailed] at hmade
  rename_i made hdone
  rw [hdone] at hmade
  split
  · exact hmade
  rename_i w' hinstall
  obtain ⟨hlocate, hfit, hnode, rfl⟩ := eq_of_install hinstall
  exact replaced_of_locate hmade hlocate hfit rfl id hnode content

end Outcome

section Same

variable {made : Workspace} {source : Location} {path : String}

theorem locate_withFile (hfree : made.disk.get? source = none) (hapart : source ≠ made.place path)
    (hfound : path ≠ "" → made.locate path ≠ .error .missing) (content : Content) (mode : Nat) :
    (made.withNode source (.file content mode)).locate path = made.locate path := by
  by_cases hreadable : Readable path
  · have hroute : made.route path ≠ .error .missing := fun hmissing =>
      hfound hreadable.nonempty (locate_of_route_error hreadable hmissing)
    refine locate_eq_of_route (Disk.walk_set_file hfree content mode hroute) fun loc hloc => ?_
    obtain rfl : made.place path = loc := Disk.foldl_follow_of_walk hloc
    exact Disk.get?_set_of_ne made.disk hapart.symm _
  · exact (locate_of_not_readable hreadable made _).1

/-- A temporary file can be renamed just where a file can be put. -/
theorem rename_withFile (hfree : made.disk.get? source = none) (hapart : source ≠ made.place path)
    (hfound : path ≠ "" → made.locate path ≠ .error .missing) (content : Content) (mode : Nat) :
    (made.withNode source (.file content mode)).rename source (.file content mode) path =
      (made.install path content).map fun _ =>
        made.withNode (made.place path) (.file content mode) := by
  have hget : (made.withNode source (.file content mode)).disk.get? (made.place path) =
      made.disk.get? (made.place path) := Disk.get?_set_of_ne made.disk hapart.symm _
  unfold rename install putFile
  rw [locate_withFile hfree hapart hfound]
  rcases hloc : made.locate path with e | loc
  · rfl
  obtain rfl := eq_place_of_locate hloc
  rcases unfit? path with _ | e
  · simp only [hget]
    rcases made.disk.get? (made.place path) with _ | ⟨old, oldMode⟩ | oldMode <;>
      simp [Except.map, withNode, Disk.discard_set hfree]
  · rfl

theorem cleared_settle_of_error (hfree : made.disk.get? source = none)
    (hapart : source ≠ made.place path)
    (hfound : path ≠ "" → made.locate path ≠ .error .missing) {content : Content} {e : AccessError}
    (h : made.install path content = .error e) (first : Node) :
    cleared source ((made.withNode source first).settle {} source path content) =
      (made, some (.target path e)) := by
  unfold settle
  simp only [withNode_withNode, rename_withFile hfree hapart hfound, h, Except.map, cleared]
  rw [withNode, Disk.discard_set hfree]

theorem cleared_settle_of_ok (hfree : made.disk.get? source = none)
    (hapart : source ≠ made.place path)
    (hfound : path ≠ "" → made.locate path ≠ .error .missing) {content : Content} {w' : Workspace}
    (h : made.install path content = .ok w') (first : Node) :
    cleared source ((made.withNode source first).settle {} source path content) = (w', none) := by
  obtain ⟨hloc, hfit, hnode, rfl⟩ := eq_of_install h
  have hlocate := (locate_withFile hfree hapart hfound content temporaryMode).trans hloc
  unfold settle
  simp only [withNode_withNode, rename_withFile hfree hapart hfound, h, Except.map, cleared]
  rw [modeFor_withFile hfree hapart hlocate hfit hnode]

/-- A name under which a temporary file can be made beside a path. -/
structure Spare (w : Workspace) (path temporary : String) : Prop where
  name : Path.IsName temporary
  apart : w.place (Path.join (directoryOf path) temporary) ≠ w.place path
  opens : ∀ made, w.makeDirectories (directoryOf path) = (made, none) →
    ∃ opened, made.create (Path.join (directoryOf path) temporary) = .ok opened

/-- If nothing goes wrong, a write in steps has the outcome of a write. -/
theorem replaceVia_eq_replace {w : Workspace} {temporary : String} (h : w.Spare path temporary)
    (content : Content) :
    replaceVia {} temporary w path content =
      ((replace w path content).1, (replace w path content).2.map .ofWrite) := by
  unfold replaceVia makeVia
  simp only
  rcases hmade : w.makeDirectories (directoryOf path) with ⟨made, _ | e⟩
  · obtain ⟨opened, hopened⟩ := h.opens made hmade
    have hkept := keeps_makeVia w {} path
    rw [makeVia, hmade] at hkept
    have hplace := place_eq_of_directory hkept.directory
    obtain ⟨hlocate, hfree, rfl⟩ := exists_of_create hopened
    have hapart : made.place (Path.join (directoryOf path) temporary) ≠ made.place path := by
      rw [hplace, hplace]
      exact h.apart
    obtain ⟨hroute, mode, hdir⟩ := exists_of_route_join h.name (walk_of_locate hlocate)
    have hfound : path ≠ "" → made.locate path ≠ .error .missing := fun hne =>
      locate_ne_missing_of_directoryOf hne hroute hdir
    simp only [hopened]
    cases hinstall : made.install path content with
    | error e =>
        rw [replace_of_install_error hmade hinstall,
          cleared_settle_of_error hfree hapart hfound hinstall]
        rfl
    | ok w' =>
        rw [replace_of_install hmade hinstall, cleared_settle_of_ok hfree hapart hfound hinstall]
        rfl
  · rw [replace_of_failed hmade]
    rfl

end Same

/-- Replacing a file is all or nothing: the path leads to the new content, with the permissions of
the file that was there and in directories that are there, and no other node but these directories
is new or changed, or else nothing happened but that directories were made. That holds as well if
the write goes through a temporary file and any of its steps goes wrong. -/
theorem replace_atomic (w : Workspace) (path : String) (content : Content) :
    w.Atomic path content (replace w path content) ∧
    ∀ temporary, w.place (Path.join (directoryOf path) temporary) ≠ w.place path →
      (∀ f, w.Atomic path content (replaceVia f temporary w path content)) ∧
      (w.Spare path temporary → replaceVia {} temporary w path content =
        ((replace w path content).1, (replace w path content).2.map .ofWrite)) := by
  refine ⟨atomic_replace w path content, fun temporary hapart => ⟨fun f => ?_, fun hspare => ?_⟩⟩
  · exact atomic_replaceVia w path content hapart f
  · exact replaceVia_eq_replace hspare content

/-- A note that only its owner may read. -/
def drawer : Workspace where
  disk := ⟨[(["drawer"], .directory 0o755), (["drawer", "note"], .file (.text "old") 0o600)]⟩
  directory := []

/-- A write that breaks off when a part of the content is there. -/
def halfWritten : Faults := { content := some (.text "ne", .busy) }

structure DrawerFacts : Prop where
  apart : drawer.place (Path.join (directoryOf "drawer/note") ".spare") ≠
    drawer.place "drawer/note"
  made : drawer.makeDirectories (directoryOf "drawer/note") = (drawer, none)
  opened : (drawer.create (Path.join (directoryOf "drawer/note") ".spare")).toOption.isSome = true
  done : (replaceVia {} ".spare" drawer "drawer/note" (.text "new")).2 = none
  failed : (replaceVia halfWritten ".spare" drawer "drawer/note" (.text "new")).2 =
    some (.content "drawer/note" .busy)

theorem drawerFacts : DrawerFacts := by
  refine (fun ⟨a, b, c, d, f⟩ => ⟨a, b, c, d, f⟩ : _ ∧ _ ∧ _ ∧ _ ∧ _ → _) ?_
  decide +kernel

theorem spare_drawer : drawer.Spare "drawer/note" ".spare" where
  name := by decide
  apart := drawerFacts.apart
  opens := by
    intro made hmade
    rw [drawerFacts.made] at hmade
    obtain rfl := (Prod.mk.inj hmade).1
    obtain ⟨opened, hopened⟩ := Option.isSome_iff_exists.mp drawerFacts.opened
    exact ⟨opened, eq_ok_of_toOption hopened⟩

/-- The note is replaced in one piece, and left alone by a write that breaks off. -/
theorem drawer_replaced_or_kept :
    drawer.Spare "drawer/note" ".spare" ∧
    (replaceVia {} ".spare" drawer "drawer/note" (.text "new") =
        ((replace drawer "drawer/note" (.text "new")).1,
          (replace drawer "drawer/note" (.text "new")).2.map .ofWrite) ∧
      (replaceVia {} ".spare" drawer "drawer/note" (.text "new")).2 = none ∧
      drawer.Atomic "drawer/note" (.text "new") (replace drawer "drawer/note" (.text "new"))) ∧
    (replaceVia halfWritten ".spare" drawer "drawer/note" (.text "new")).2 =
        some (.content "drawer/note" .busy) ∧
      drawer.Atomic "drawer/note" (.text "new")
        (replaceVia halfWritten ".spare" drawer "drawer/note" (.text "new")) := by
  obtain ⟨hatomic, hsteps⟩ := replace_atomic drawer "drawer/note" (.text "new")
  obtain ⟨hfaults, hsame⟩ := hsteps ".spare" drawerFacts.apart
  exact ⟨spare_drawer, ⟨hsame spare_drawer, drawerFacts.done, hatomic⟩, drawerFacts.failed,
    hfaults halfWritten⟩

end Workspace

end Phrasebook
