import Phrasebook.Command.Basic
import Phrasebook.Proofs.Disk.Unchanged

/-!
Which configuration is in force in a directory.

A configuration file governs its own directory and those below it, down to the next file and the
next top of a repository. The search goes up along the text of a path, one part after another, so it
finds the file that governs a directory only if the text reaches as far up as that file. The text of
an absolute path does, as it starts at the root. That of a relative path ends at the working
directory, and what lies above it is never looked at.
-/

namespace Phrasebook

open Command (startDirectory)
open Disk (Location)

namespace Path

theorem root_not_mem_filterMap_partOf (ps : List (List Char)) : .root ∉ ps.filterMap partOf := by
  intro h
  obtain ⟨p, -, hp⟩ := List.mem_filterMap.mp h
  unfold partOf at hp
  split at hp
  · cases hp
  · split at hp <;> cases hp

theorem root_mem_parts_iff {path : String} : .root ∈ parts path ↔ isAbsolute path = true := by
  by_cases hne : path = ""
  · subst hne
    decide
  · have hroot := pieces_ne_singleton_nil (mt String.toList_eq_nil_iff.mp hne)
    rw [parts_eq, List.mem_append, or_iff_left (root_not_mem_filterMap_partOf _),
      isAbsolute_iff hne]
    rcases hpieces : pieces path.toList with _ | ⟨p, _ | ⟨q, ps⟩⟩
    · simp [leading]
    · have hp : p ≠ [] := fun h => hroot (by rw [hpieces, h])
      by_cases hdot : p = ['.'] <;> simp [leading, hp, hdot]
    · by_cases hp : p = []
      · simp [leading, hp]
      · by_cases hdot : p = ['.'] <;> simp [leading, hp, hdot]

theorem root_not_mem_tail_parts (path : String) : .root ∉ (parts path).tail := by
  have hinner := root_not_mem_filterMap_partOf (pieces path.toList)
  rw [parts_eq]
  unfold leading
  split
  · exact hinner
  · split
    · exact hinner
    · exact fun h => hinner (List.mem_of_mem_tail h)

/-- Nothing leads a part further to the root. -/
theorem part_ne_root_of_extends {path above : String} (h : Extends path above) {part : Part}
    (hpart : parts path = parts above ++ [part]) : part ≠ .root := by
  rintro rfl
  have habove : .root ∈ parts above := by
    rw [root_mem_parts_iff, ← h.absolute, ← root_mem_parts_iff, hpart]
    simp
  apply root_not_mem_tail_parts path
  rw [hpart, List.tail_append_of_ne_nil (List.ne_nil_of_mem habove)]
  simp

theorem exists_join_eq (base : String) {name : String} (hname : IsName name) :
    ∃ front slash, front <+: base.toList ∧ (slash = "" ∨ slash = "/") ∧
      join base name = String.ofList front ++ slash ++ name := by
  by_cases hbase : base = ""
  · subst hbase
    exact ⟨[], "", List.prefix_rfl, Or.inl rfl, by simp [join]⟩
  · obtain ⟨front, hfront, hjoin⟩ := toList_join hname hbase
    refine ⟨front, "/", ?_, Or.inr rfl, String.toList_inj.mp (by simp [hjoin])⟩
    rcases hfront with hfront | hfront
    · exact hfront ▸ List.prefix_rfl
    · exact hfront ▸ List.prefix_append _ _

end Path

namespace Workspace

variable {w : Workspace} {path : String} {loc : Location}

theorem endsOpen_join (base : String) {name : String} (hname : Path.IsName name) :
    endsOpen (Path.join base name) = false := by
  have hdot : name.toList ≠ ['.'] := fun e => hname.2.1 (String.toList_inj.mp e)
  have hidle : Path.isIdle name.toList = false := by simp [Path.isIdle, hname.1, hdot]
  have hpieces : Path.pieces name.toList = [name.toList] := Path.pieces_of_not_mem hname.2.2.2
  unfold endsOpen
  by_cases hbase : base = ""
  · have hjoin : Path.join base name = name := by simp [Path.join, hbase]
    rw [hjoin, hpieces]
    rfl
  · obtain ⟨front, -, hjoin⟩ := Path.toList_join hname hbase
    rw [hjoin, Path.pieces_append_slash, hpieces, List.reverse_append]
    rcases (Path.pieces front).reverse with _ | ⟨p, ps⟩
    · rfl
    · exact hidle

theorem Readable.join {base name : String} (h : Readable path) (hbase : base.toList <+: path.toList)
    (hname : Path.IsName name) (hzero : name.toList.contains (Char.ofNat 0) = false)
    (hroom : path.utf8ByteSize + 1 + name.utf8ByteSize ≤ maxPathLength) :
    Readable (Path.join base name) := by
  obtain ⟨front, slash, hfront, hslash, hjoin⟩ := Path.exists_join_eq base hname
  obtain ⟨rest, hrest⟩ := hfront.trans hbase
  obtain rfl : path = String.ofList front ++ String.ofList rest :=
    String.toList_inj.mp (by simp [hrest])
  have hstart := h.zero
  rw [String.toList_append, List.contains_append, Bool.or_eq_false_iff] at hstart
  rw [String.utf8ByteSize_append] at hroom
  have hslashZero : slash.toList.contains (Char.ofNat 0) = false ∧ slash.utf8ByteSize ≤ 1 := by
    rcases hslash with rfl | rfl <;> decide
  rw [hjoin]
  constructor
  · rw [String.toList_append, String.toList_append, List.contains_append, List.contains_append,
      hstart.1, hslashZero.1, hzero]
    rfl
  · intro hempty
    have hlist := congrArg String.toList hempty
    simp only [String.toList_append, String.toList_empty, List.append_eq_nil_iff] at hlist
    exact hname.1 (String.toList_eq_nil_iff.mp hlist.2)
  · rw [String.utf8ByteSize_append, String.utf8ByteSize_append]
    omega

theorem has_of_locate (h : w.locate path = .ok loc) : w.has path = (w.disk.get? loc).isSome := by
  unfold has node
  simp only [h]
  rcases w.disk.get? loc with _ | n <;> rfl

end Workspace

namespace Config

open Workspace (Readable)

variable {w : Workspace} {disk : Disk} {top dir owner : Location} {start : String}

/-- A configuration file in the directory `owner` is the one in force in the directory `dir`. -/
structure Governs (disk : Disk) (dir owner : Location) : Prop where
  above : owner <+: dir
  file : disk.get? (owner ++ [fileName]) ≠ none
  /-- Between the two there is no other file, and no top of a repository. -/
  nearest : ∀ loc, owner <+: loc → loc <+: dir → loc ≠ owner →
    disk.get? (loc ++ [fileName]) = none ∧ disk.get? (loc ++ [repositoryMark]) = none

theorem governs_self (h : disk.get? (dir ++ [fileName]) ≠ none) : Governs disk dir dir where
  above := List.prefix_rfl
  file := h
  nearest _ hbelow habove hne := absurd (habove.eq_of_length_le hbelow.length_le) hne

theorem Governs.eq_self (h : Governs disk dir owner)
    (hdir : disk.get? (dir ++ [fileName]) ≠ none ∨ disk.get? (dir ++ [repositoryMark]) ≠ none) :
    owner = dir := by
  refine Decidable.byContradiction fun hne => ?_
  obtain ⟨hfile, hmark⟩ := h.nearest dir h.above List.prefix_rfl (Ne.symm hne)
  rcases hdir with hdir | hdir
  · exact hdir hfile
  · exact hdir hmark

/-- A directory with neither a file nor a mark is governed like the one that it lies in. -/
theorem governs_concat_iff {name : String} (hfile : disk.get? (dir ++ [name] ++ [fileName]) = none)
    (hmark : disk.get? (dir ++ [name] ++ [repositoryMark]) = none) :
    Governs disk (dir ++ [name]) owner ↔ Governs disk dir owner := by
  constructor
  · intro h
    refine ⟨?_, h.file, fun loc hbelow habove => h.nearest loc hbelow (habove.trans ?_)⟩
    · rcases List.prefix_concat_iff.mp h.above with rfl | habove
      · exact absurd hfile h.file
      · exact habove
    · exact List.prefix_append _ _
  · intro h
    refine ⟨h.above.trans (List.prefix_append _ _), h.file, fun loc hbelow habove hne => ?_⟩
    rcases List.prefix_concat_iff.mp habove with rfl | habove
    · exact ⟨hfile, hmark⟩
    · exact h.nearest loc hbelow habove hne

/-- What a search finds that goes up from `dir` and ends at `top`. -/
inductive Found (w : Workspace) (top dir : Location) : Option String → Prop
  | file {owner : Location} {path : String} (htop : top <+: owner)
      (hgoverns : Governs w.disk dir owner) (hpath : w.locate path = .ok (owner ++ [fileName])) :
      Found w top dir (some path)
  | none (hnone : ∀ owner, top <+: owner → ¬ Governs w.disk dir owner) : Found w top dir none

def sought : List String := [fileName, repositoryMark]

theorem isName_of_mem_sought : ∀ name ∈ sought, Path.IsName name ∧
    name.toList.contains (Char.ofNat 0) = false ∧ name.utf8ByteSize ≤ 15 := by
  decide

/-- A directory in which the search can look. -/
structure Searched (w : Workspace) (path : String) (loc : Location) : Prop where
  route : w.route path = .ok loc
  directory : ∃ mode, w.disk.get? loc = some (.directory mode)
  readable : ∀ name ∈ sought, Readable (Path.join path name)

theorem Searched.locate_join (h : Searched w start dir) {name : String} (hname : name ∈ sought) :
    w.locate (Path.join start name) = .ok (dir ++ [name]) := by
  obtain ⟨hisName, -, hsize⟩ := isName_of_mem_sought name hname
  obtain ⟨mode, hmode⟩ := h.directory
  have hshort : ¬ name.utf8ByteSize > maxNameLength := by
    unfold maxNameLength
    omega
  have hroute : w.route (Path.join start name) = .ok (dir ++ [name]) := by
    rw [Workspace.route_join w start hisName, h.route]
    simp [Except.bind, Disk.step, hmode, hshort]
  exact Workspace.locate_of_route (h.readable name hname) hroute
    fun _ _ _ => Workspace.endsOpen_join start hisName

/-- One step of the search: a file ends it, a mark ends it, and else it goes on above. -/
theorem found_findAlong_cons (h : Searched w start dir) (htop : top <+: dir) (above : List String)
    (hrest : w.disk.get? (dir ++ [fileName]) = none → w.disk.get? (dir ++ [repositoryMark]) = none →
      Found w top dir (findAlong w above)) :
    Found w top dir (findAlong w (start :: above)) := by
  have hfile : w.locate (Path.join start fileName) = _ := h.locate_join (by decide)
  have hmark : w.locate (Path.join start repositoryMark) = _ := h.locate_join (by decide)
  rw [findAlong, Workspace.has_of_locate hfile, Workspace.has_of_locate hmark]
  rcases hf : w.disk.get? (dir ++ [fileName]) with _ | file
  · rcases hm : w.disk.get? (dir ++ [repositoryMark]) with _ | mark
    · exact hrest hf hm
    · -- A mark hides every file above it, and there is none beside it.
      refine .none fun owner _ hgoverns => ?_
      obtain rfl := hgoverns.eq_self (Or.inr (by simp [hm]))
      exact hgoverns.file hf
  · exact .file htop (governs_self (by simp [hf])) hfile

theorem found_findAlong_singleton (h : Searched w start dir) :
    Found w dir dir (findAlong w [start]) := by
  refine found_findAlong_cons h List.prefix_rfl [] fun hfile _ => ?_
  refine .none fun owner htop hgoverns => ?_
  obtain rfl := hgoverns.above.eq_of_length_le htop.length_le
  exact hgoverns.file hfile

theorem Found.of_governs_iff {next : Location} {found : Option String} (h : Found w top dir found)
    (hiff : ∀ owner, Governs w.disk next owner ↔ Governs w.disk dir owner) :
    Found w top next found := by
  cases h with
  | file htop hgoverns hpath => exact .file htop ((hiff _).mpr hgoverns) hpath
  | none hnone => exact .none fun owner htop hgoverns => hnone owner htop ((hiff owner).mp hgoverns)

/-- A path that leads a part further than another, and not up, leads to the same directory or to one
that lies in it. -/
theorem Searched.exists_above {above : String} (h : Searched w start dir)
    (hextends : Path.Extends start above) (hdown : .up ∉ Path.parts start)
    (hreadable : ∀ name ∈ sought, Readable (Path.join above name)) :
    ∃ mid, Searched w above mid ∧ .up ∉ Path.parts above ∧
      (dir = mid ∨ ∃ name, dir = mid ++ [name]) := by
  obtain ⟨part, hpart⟩ := hextends.parts
  have hroute := w.route_concat hextends.absolute hpart
  rw [h.route] at hroute
  obtain ⟨mid, hmid, hstep⟩ := exists_of_bind_eq_ok hroute.symm
  rw [hpart] at hdown
  refine ⟨mid, ⟨hmid, Disk.exists_directory_of_step hstep, hreadable⟩,
    fun hup => hdown (List.mem_append_left _ hup), ?_⟩
  have hdir := Disk.follow_of_step hstep
  cases part with
  | root => exact absurd rfl (Path.part_ne_root_of_extends hextends hpart)
  | here => exact Or.inl hdir.symm
  | up => exact absurd (List.mem_append_right _ (List.mem_singleton.mpr rfl)) hdown
  | name name => exact Or.inr ⟨name, hdir.symm⟩

/-- Each rung of a ladder is looked up in the directory that its own text leads to, and the text of
the last one leads to where the whole path starts. -/
theorem found_findAlong {rung : String} {above : List String}
    (hladder : Path.Ladder (rung :: above)) (hparts : Path.parts start = Path.parts rung)
    (habsolute : Path.isAbsolute start = Path.isAbsolute rung) (hdown : .up ∉ Path.parts start)
    (hsearched : Searched w start dir)
    (hreadable : ∀ path ∈ above, ∀ name ∈ sought, Readable (Path.join path name)) :
    w.origin start <+: dir ∧ Found w (w.origin start) dir (findAlong w (start :: above)) := by
  have hplace : (Path.parts start).foldl Disk.follow (w.origin start) = dir :=
    Disk.foldl_follow_of_walk hsearched.route
  -- The start has the parts of the top rung, but its text may end with idle pieces. So the induction
  -- is on the ladder, for every path that has the parts of its top.
  generalize hrungs : rung :: above = rungs at hladder
  induction hladder generalizing start dir rung above with
  | start =>
      obtain ⟨rfl, rfl⟩ := List.cons_eq_cons.mp hrungs
      obtain rfl : w.origin start = dir := by rwa [hparts] at hplace
      exact ⟨List.prefix_rfl, found_findAlong_singleton hsearched⟩
  | root =>
      obtain ⟨rfl, rfl⟩ := List.cons_eq_cons.mp hrungs
      have horigin : w.origin start = [] := by
        rw [Workspace.origin, habsolute]
        rfl
      obtain rfl : w.origin start = dir := by
        rw [hparts] at hplace
        exact horigin.trans hplace
      exact ⟨List.prefix_rfl, found_findAlong_singleton hsearched⟩
  | @step _ next rest hextends _ _ ih =>
      obtain ⟨rfl, rfl⟩ := List.cons_eq_cons.mp hrungs
      have hextends' : Path.Extends start next :=
        ⟨hparts ▸ hextends.parts, habsolute.trans hextends.absolute⟩
      have horigin : w.origin start = w.origin next := by
        rw [Workspace.origin, Workspace.origin, hextends'.absolute]
      obtain ⟨mid, hmid, hdown', hdir⟩ :=
        hsearched.exists_above hextends' hdown (hreadable next List.mem_cons_self)
      obtain ⟨htop, hfound⟩ := ih rfl rfl hdown' hmid
        (fun path hpath => hreadable path (List.mem_cons_of_mem _ hpath))
        (Disk.foldl_follow_of_walk hmid.route) rfl
      rw [← horigin] at htop hfound
      have htop' : w.origin start <+: dir := by
        rcases hdir with rfl | ⟨name, rfl⟩
        · exact htop
        · exact htop.trans (List.prefix_append _ _)
      refine ⟨htop', found_findAlong_cons hsearched htop' _ fun hfile hmark => ?_⟩
      rcases hdir with rfl | ⟨name, rfl⟩
      · exact hfound
      · exact hfound.of_governs_iff fun owner => governs_concat_iff hfile hmark

/-- A directory to start from: it is there, its path does not lead up on the way, and the names that
are looked for fit behind it. -/
structure Start (w : Workspace) (start : String) : Prop where
  directory : w.hasDirectory start = true
  down : .up ∉ Path.parts start
  room : start.utf8ByteSize + 16 ≤ maxPathLength

theorem Start.readable_join (h : Start w start) {above name : String}
    (habove : above.toList <+: start.toList) (hname : name ∈ sought) :
    Readable (Path.join above name) := by
  obtain ⟨hlocate, -⟩ := Workspace.hasDirectory_eq_true_iff.mp h.directory
  obtain ⟨hisName, hzero, hsize⟩ := isName_of_mem_sought name hname
  have hroom := h.room
  exact (Workspace.readable_of_locate hlocate).join habove hisName hzero (by omega)

theorem Start.searched (h : Start w start) : Searched w start (w.place start) := by
  obtain ⟨hlocate, hdirectory⟩ := Workspace.hasDirectory_eq_true_iff.mp h.directory
  exact ⟨Workspace.walk_of_locate hlocate, hdirectory, fun _ => h.readable_join List.prefix_rfl⟩

theorem found_find? (h : Start w start) :
    Found w (w.origin start) (w.place start) (find? w start) := by
  obtain ⟨hlocate, -⟩ := Workspace.hasDirectory_eq_true_iff.mp h.directory
  have hne := (Workspace.readable_of_locate hlocate).nonempty
  obtain ⟨rung, -, hparts, habsolute, hladder⟩ := Path.exists_ladder hne
  refine (found_findAlong hladder hparts habsolute h.down h.searched fun path hpath _ => ?_).2
  refine h.readable_join ?_
  by_cases hempty : path = ""
  · simp [hempty]
  · exact Path.prefix_text_of_mem_parents hpath hempty

theorem start_startDirectory (h : w.hasDirectory startDirectory = true) :
    Start w startDirectory :=
  ⟨h, by decide, by decide⟩

/-- The search from the working directory ends where it begins. -/
theorem find?_startDirectory (h : w.hasDirectory startDirectory = true) :
    find? w startDirectory =
      if (w.disk.get? (w.directory ++ [fileName])).isSome then
        some (Path.join startDirectory fileName)
      else none := by
  have hstart := start_startDirectory h
  have hlocate : w.locate (Path.join startDirectory fileName) = .ok (w.directory ++ [fileName]) :=
    hstart.searched.locate_join (by decide)
  by_cases hfile : (w.disk.get? (w.directory ++ [fileName])).isSome = true
  · rw [if_pos hfile, find?, findAlong, Workspace.has_of_locate hlocate, if_pos hfile]
  · rw [if_neg hfile]
    have hfound : Found w w.directory w.directory (find? w startDirectory) := found_find? hstart
    generalize find? w startDirectory = found at hfound ⊢
    cases hfound with
    | none hnone => rfl
    | file htop hgoverns hpath =>
        obtain rfl := hgoverns.above.eq_of_length_le htop.length_le
        exact absurd (by simpa using hfile) hgoverns.file

def ofFile (w : Workspace) (path : String) : Except LoadError Loaded :=
  match w.readText path with
  | .error e => .error (.unreadable path e)
  | .ok text =>
      match Config.parse text with
      | .error e => .error (.malformed path e)
      | .ok c => (checked c).map fun c => ⟨c, true⟩

/-- The configuration of what a search found. -/
def ofFound (w : Workspace) : Option String → Except LoadError Loaded
  | none => .ok ⟨{}, false⟩
  | some path => ofFile w path

theorem load_eq_ofFound (w : Workspace) (start : String) :
    load w start = ofFound w (find? w start) := by
  unfold load
  cases find? w start <;> rfl

end Config

namespace Settings

open Config (Found Governs Start ofFound)

/-- The settings that a configuration gives, if there is one. -/
def ofLoaded (start : String) (o : Overrides) (loaded : Except Config.LoadError Config.Loaded) :
    Except Config.LoadError Settings :=
  loaded.bind fun loaded => (Config.checked (o.effective loaded.config)).map (ofConfig start o)

theorem load_eq_ofLoaded (w : Workspace) (start : String) (o : Overrides) :
    load w start o = ofLoaded start o (ofFound w (Config.find? w start)) := by
  rw [← Config.load_eq_ofFound]
  unfold load
  cases Config.load w start <;> rfl

/-- The settings for a directory come from the file that governs it, provided that this lies no
higher than where the path of the directory starts. They are the default ones if no such file does.
A command starts in the working directory, and so it takes the file there or none. -/
theorem load_nearest {w : Workspace} (hdirectory : w.hasDirectory startDirectory = true)
    (o : Overrides) :
    (∀ start, Start w start →
      ∃ found, Found w (w.origin start) (w.place start) found ∧
        load w start o = ofLoaded start o (ofFound w found)) ∧
    load w startDirectory o = ofLoaded startDirectory o (ofFound w
      (if (w.disk.get? (w.directory ++ [Config.fileName])).isSome then
        some (Path.join startDirectory Config.fileName)
      else none)) := by
  constructor
  · intro start hstart
    exact ⟨_, Config.found_find? hstart, load_eq_ofLoaded w start o⟩
  · rw [load_eq_ofLoaded, Config.find?_startDirectory hdirectory]

/-- A project whose configuration lies above the working directory. -/
def nested : Workspace where
  disk := ⟨[([".i18nizerc.json"], .file (.text "\x7b\"baseLocale\": \"fr\"\x7d\n") 0o644),
    (["app"], .directory 0o755)]⟩
  directory := ["app"]

def baseLocale? (settings : Except Config.LoadError Settings) : Option String :=
  settings.toOption.map fun s => s.baseLocale

structure NestedFacts : Prop where
  directory : nested.hasDirectory startDirectory = true
  reached : nested.hasDirectory "/app" = true
  located : (nested.locate "/.i18nizerc.json").toOption = some [Config.fileName]
  bare : nested.disk.get? (nested.directory ++ [Config.fileName]) = none ∧
    nested.disk.get? (nested.directory ++ [Config.repositoryMark]) = none
  absolute : baseLocale? (load nested "/app" {}) = some "fr"
  relative : baseLocale? (load nested startDirectory {}) = some "en"
  governing : baseLocale? (ofLoaded startDirectory {} (ofFound nested (some "/.i18nizerc.json"))) =
    some "fr"

theorem nestedFacts : NestedFacts := by
  refine (fun ⟨a, b, c, d, f, g, h⟩ => ⟨a, b, c, d, f, g, h⟩ :
    _ ∧ _ ∧ _ ∧ _ ∧ _ ∧ _ ∧ _ → _) ?_
  decide +kernel

/-- From its whole path the working directory has the settings of the file above it. -/
theorem nested_absolute :
    Start nested "/app" ∧
    (∃ found, Found nested [] nested.directory found ∧
      load nested "/app" {} = ofLoaded "/app" {} (ofFound nested found)) ∧
    baseLocale? (load nested "/app" {}) = some "fr" ∧
    load nested startDirectory {} = ofLoaded startDirectory {} (ofFound nested none) := by
  have hstart : Start nested "/app" := ⟨nestedFacts.reached, by decide, by decide⟩
  obtain ⟨hall, hhere⟩ := load_nearest nestedFacts.directory {}
  rw [nestedFacts.bare.1] at hhere
  exact ⟨hstart, hall "/app" hstart, nestedFacts.absolute, hhere⟩

/-- A command in that directory does not see the file, although it is the one in force there. -/
theorem nested_passed_over :
    Governs nested.disk nested.directory [] ∧
    nested.locate "/.i18nizerc.json" = .ok ([] ++ [Config.fileName]) ∧
    baseLocale? (ofLoaded startDirectory {} (ofFound nested (some "/.i18nizerc.json"))) =
      some "fr" ∧
    baseLocale? (load nested startDirectory {}) = some "en" := by
  have hfile : nested.disk.get? ([] ++ [Config.fileName]) ≠ none := by decide
  have hgoverns : Governs nested.disk ([] ++ ["app"]) [] :=
    (Config.governs_concat_iff nestedFacts.bare.1 nestedFacts.bare.2).mpr
      (Config.governs_self hfile)
  exact ⟨hgoverns, eq_ok_of_toOption nestedFacts.located, nestedFacts.governing,
    nestedFacts.relative⟩

end Settings

end Phrasebook
