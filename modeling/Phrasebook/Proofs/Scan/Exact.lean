import Phrasebook.Proofs.Scan.Found

/-!
A scan is exact.

It finds the files below a directory that have one of the extensions and are not left out, each of
them once and in the order of paths. The list is fixed by that, so it does not matter in which order
the nodes of the disk are listed.
-/

namespace Phrasebook

open Disk (Content Location Node)

namespace Glob

/-- The texts that a list of tokens stands for. The directories of a token end with a slash, or with
the text. -/
inductive Matches : List Token → List Char → Prop
  | nil : Matches [] []
  | one {token : Token} {tokens : List Token} {c : Char} {cs : List Char}
      (char : token.matchesChar c = true) (rest : Matches tokens cs) :
      Matches (token :: tokens) (c :: cs)
  | sequence {tokens : List Token} {cs : List Char} (front : List Char)
      (rest : Matches tokens cs) : Matches (.anySequence :: tokens) (front ++ cs)
  | directories {tokens : List Token} {front cs : List Char}
      (whole : front = [] ∨ front.getLast? = some '/' ∨ cs = []) (rest : Matches tokens cs) :
      Matches (.anyDirectories :: tokens) (front ++ cs)

theorem anyEnd_iff {test : List Char → Bool} {cs : List Char} :
    anyEnd test cs = true ↔ ∃ front rest, cs = front ++ rest ∧ test rest = true := by
  induction cs with
  | nil =>
      rw [anyEnd]
      constructor
      · intro h
        exact ⟨[], [], rfl, h⟩
      · rintro ⟨front, rest, heq, h⟩
        obtain ⟨-, rfl⟩ := List.append_eq_nil_iff.mp heq.symm
        exact h
  | cons c cs ih =>
      rw [anyEnd, Bool.or_eq_true, ih]
      constructor
      · rintro (h | ⟨front, rest, rfl, h⟩)
        · exact ⟨[], _, rfl, h⟩
        · exact ⟨c :: front, rest, rfl, h⟩
      · rintro ⟨_ | ⟨d, front⟩, rest, heq, h⟩
        · exact Or.inl (heq ▸ h)
        · obtain ⟨rfl, rfl⟩ := List.cons.inj heq
          exact Or.inr ⟨front, rest, rfl, h⟩

theorem anyEndBehindSlash_iff {test : List Char → Bool} {cs : List Char} :
    anyEndBehindSlash test cs = true ↔ ∃ front rest, cs = front ++ rest ∧
      (front.getLast? = some '/' ∨ rest = []) ∧ test rest = true := by
  induction cs with
  | nil =>
      rw [anyEndBehindSlash]
      constructor
      · intro h
        exact ⟨[], [], rfl, Or.inr rfl, h⟩
      · rintro ⟨front, rest, heq, -, h⟩
        obtain ⟨-, rfl⟩ := List.append_eq_nil_iff.mp heq.symm
        exact h
  | cons c cs ih =>
      rw [anyEndBehindSlash, Bool.or_eq_true, Bool.and_eq_true, decide_eq_true_iff, ih]
      constructor
      · rintro (⟨rfl, h⟩ | ⟨front, rest, rfl, hwhole, h⟩)
        · exact ⟨['/'], cs, rfl, Or.inl rfl, h⟩
        · refine ⟨c :: front, rest, rfl, hwhole.imp_left fun hslash => ?_, h⟩
          rw [List.getLast?_cons, hslash]
          rfl
      · rintro ⟨_ | ⟨d, front⟩, rest, heq, hwhole, h⟩
        · rcases hwhole with hslash | rfl
          · cases hslash
          · cases heq
        · obtain ⟨rfl, rfl⟩ := List.cons.inj heq
          rcases hwhole with hslash | hnil
          · rcases front with _ | ⟨e, front⟩
            · exact Or.inl ⟨by simpa using hslash, h⟩
            · exact Or.inr ⟨e :: front, rest, rfl, Or.inl (by simpa using hslash), h⟩
          · exact Or.inr ⟨front, rest, rfl, Or.inr hnil, h⟩

theorem accepts_of_single {token : Token} (hsequence : token ≠ .anySequence)
    (hdirectories : token ≠ .anyDirectories) (tokens : List Token) :
    accepts (token :: tokens) [] = false ∧ ∀ c cs, accepts (token :: tokens) (c :: cs) =
      (token.matchesChar c && accepts tokens cs) := by
  constructor
  · rw [accepts] <;> assumption
  · intro c cs
    rw [accepts] <;> assumption

theorem accepts_iff {tokens : List Token} {cs : List Char} :
    accepts tokens cs = true ↔ Matches tokens cs := by
  induction tokens generalizing cs with
  | nil =>
      rw [accepts, List.isEmpty_iff]
      constructor
      · rintro rfl
        exact .nil
      · rintro ⟨⟩
        rfl
  | cons token tokens ih =>
      by_cases hsequence : token = .anySequence
      · subst hsequence
        rw [accepts, anyEnd_iff]
        constructor
        · rintro ⟨front, rest, rfl, h⟩
          exact .sequence front (ih.mp h)
        · intro h
          cases h with
          | one char => cases char
          | sequence front rest => exact ⟨front, _, rfl, ih.mpr rest⟩
      by_cases hdirectories : token = .anyDirectories
      · subst hdirectories
        rw [accepts, Bool.or_eq_true, anyEndBehindSlash_iff]
        constructor
        · rintro (h | ⟨front, rest, rfl, hwhole, h⟩)
          · exact .directories (Or.inl rfl) (ih.mp h)
          · exact .directories (Or.inr hwhole) (ih.mp h)
        · intro h
          cases h with
          | one char => cases char
          | directories whole rest =>
              rcases whole with rfl | whole
              · exact Or.inl (ih.mpr rest)
              · exact Or.inr ⟨_, _, rfl, whole, ih.mpr rest⟩
      · obtain ⟨hnil, hcons⟩ := accepts_of_single hsequence hdirectories tokens
        constructor
        · intro h
          rcases cs with _ | ⟨c, cs⟩
          · rw [hnil] at h
            cases h
          · rw [hcons, Bool.and_eq_true] at h
            exact .one h.1 (ih.mp h.2)
        · intro h
          cases h with
          | one char rest => rw [hcons, char, ih.mpr rest]; rfl
          | sequence => exact absurd rfl hsequence
          | directories => exact absurd rfl hdirectories

end Glob

namespace Path

theorem takeWhile_ne_point {cs : List Char} (h : '.' ∉ cs) (rest : List Char) :
    (cs ++ rest).takeWhile (· ≠ '.') = cs ++ rest.takeWhile (· ≠ '.') := by
  refine List.takeWhile_append_of_pos fun c hc => ?_
  simp only [decide_eq_true_iff]
  rintro rfl
  exact h hc

theorem splitName_append {stem ext : List Char} (hstem : stem ≠ []) (hext : '.' ∉ ext) :
    splitName (stem ++ '.' :: ext) = (stem, some ext) := by
  have hlast : (stem ++ '.' :: ext).reverse.takeWhile (· ≠ '.') = ext.reverse := by
    rw [List.reverse_append, List.reverse_cons, List.append_assoc,
      takeWhile_ne_point (mt List.mem_reverse.mp hext)]
    simp
  have hfront : (stem ++ '.' :: ext).length - ext.length - 1 = stem.length := by
    rw [List.length_append, List.length_cons]
    omega
  have hshorter : ext.length ≠ (stem ++ '.' :: ext).length := by
    rw [List.length_append, List.length_cons]
    omega
  unfold splitName
  simp only [hlast, List.reverse_reverse, hfront, List.take_left]
  rw [if_neg (by simpa [hstem] using hshorter)]

theorem splitName_of_not_mem {name : List Char} (h : '.' ∉ name) : (splitName name).2 = none := by
  have hall : name.reverse.takeWhile (· ≠ '.') = name.reverse := by
    simpa using takeWhile_ne_point (mt List.mem_reverse.mp h) []
  unfold splitName
  simp only [hall, List.reverse_reverse]
  simp

theorem splitName_point {ext : List Char} (h : '.' ∉ ext) : (splitName ('.' :: ext)).2 = none := by
  have hlast : ('.' :: ext).reverse.takeWhile (· ≠ '.') = ext.reverse := by
    rw [List.reverse_cons, takeWhile_ne_point (mt List.mem_reverse.mp h)]
    simp
  unfold splitName
  simp only [hlast, List.reverse_reverse]
  simp

/-- A name has an extension behind its last point, unless this is also its first character. -/
theorem splitName_eq_some_iff {name ext : List Char} :
    (splitName name).2 = some ext ↔
      ∃ stem, name = stem ++ '.' :: ext ∧ stem ≠ [] ∧ '.' ∉ ext := by
  constructor
  · intro h
    by_cases hpoint : '.' ∈ name
    · obtain ⟨last, front, hsplit, hlast⟩ :=
        List.eq_append_cons_of_mem (List.mem_reverse.mpr hpoint)
      have hlast' : '.' ∉ last.reverse := mt List.mem_reverse.mp hlast
      obtain rfl : name = front.reverse ++ '.' :: last.reverse := by
        rw [← List.reverse_reverse name, hsplit]
        simp
      by_cases hstem : front.reverse = []
      · rw [hstem, List.nil_append, splitName_point hlast'] at h
        cases h
      · rw [splitName_append hstem hlast'] at h
        obtain rfl := Option.some.inj h
        exact ⟨_, rfl, hstem, hlast'⟩
    · rw [splitName_of_not_mem hpoint] at h
      cases h
  · rintro ⟨stem, rfl, hstem, hext⟩
    rw [splitName_append hstem hext]

theorem extension?_foldl_join (directory : String) {front : Location} {name ext : String}
    (hnames : Location.IsNamed (front ++ [name])) :
    extension? ((front ++ [name]).foldl join directory) = some ext ↔
      ∃ stem, name = stem ++ "." ++ ext ∧ stem ≠ "" ∧ '.' ∉ ext.toList := by
  have hname : fileName? ((front ++ [name]).foldl join directory) = some name := by
    rw [fileName?, (parts_foldl_join directory hnames).1]
    simp
  rw [extension?, hname, Option.bind_some, Option.map_eq_some_iff]
  constructor
  · rintro ⟨ext, hext, rfl⟩
    obtain ⟨stem, hsplit, hstem, hpoint⟩ := splitName_eq_some_iff.mp hext
    refine ⟨String.ofList stem, String.toList_inj.mp ?_, ?_, by simpa using hpoint⟩
    · simp [hsplit]
    · simpa using hstem
  · rintro ⟨stem, rfl, hstem, hpoint⟩
    refine ⟨ext.toList, splitName_eq_some_iff.mpr ⟨stem.toList, ?_, ?_, hpoint⟩, by simp⟩
    · simp
    · simpa using hstem

end Path

namespace Disk

theorem content?_eq_some_iff {disk : Disk} {loc : Location} {content : Content} :
    disk.content? loc = some content ↔ ∃ mode, disk.get? loc = some (.file content mode) := by
  unfold content?
  rcases disk.get? loc with _ | ⟨_, _⟩ | _ <;> simp [Node.content?]

theorem WellFormed.of_perm {disk disk' : Disk} (h : disk.WellFormed)
    (hperm : disk'.nodes.Perm disk.nodes) : disk'.WellFormed where
  nodup := (hperm.map _).nodup_iff.mpr h.nodup
  named p hp := h.named p (hperm.mem_iff.mp hp)

/-- Where each node is does not depend on the order in which they are listed. -/
theorem WellFormed.get?_of_perm {disk disk' : Disk} (h : disk.WellFormed)
    (hperm : disk'.nodes.Perm disk.nodes) (loc : Location) : disk'.get? loc = disk.get? loc := by
  by_cases hroot : loc = []
  · rw [get?, get?, if_pos hroot, if_pos hroot]
  · ext node
    constructor
    · intro hnode
      exact h.get?_of_mem (hperm.mem_iff.mp (mem_nodes_of_get? hroot hnode))
    · intro hnode
      exact (h.of_perm hperm).get?_of_mem (hperm.mem_iff.mpr (mem_nodes_of_get? hroot hnode))

end Disk

namespace Scan

variable {w : Workspace} {directory path : String}

theorem ignores_ofEntries_eq_false_iff {base : String} {entries : List String} :
    (IgnoreRules.ofEntries base entries).ignores path = false ↔
      (∀ e ∈ entries, isPattern e = false →
        ¬ Path.parts (Path.join base e) <+: Path.parts path) ∧
      ∀ e ∈ entries, isPattern e = true → ∀ tokens, Glob.parse e = .ok tokens →
        ¬ Glob.Matches tokens path.toList := by
  rw [IgnoreRules.ignores, Bool.or_eq_false_iff, List.any_eq_false, List.any_eq_false]
  constructor
  · rintro ⟨hliterals, hpatterns⟩
    refine ⟨fun e he hliteral hstarts => ?_, fun e he hpattern tokens htokens hmatches => ?_⟩
    · refine hliterals _ (List.mem_map_of_mem (List.mem_filter.mpr ⟨he, ?_⟩)) ?_
      · rw [hliteral]
        rfl
      · exact List.isPrefixOf_iff_prefix.mpr hstarts
    · refine hpatterns tokens (List.mem_filterMap.mpr ⟨e, List.mem_filter.mpr ⟨he, hpattern⟩, ?_⟩)
        (Glob.accepts_iff.mpr hmatches)
      rw [htokens]
      rfl
  · rintro ⟨hliterals, hpatterns⟩
    refine ⟨fun p hp hstarts => ?_, fun tokens htokens haccepts => ?_⟩
    · obtain ⟨e, he, rfl⟩ := List.mem_map.mp hp
      obtain ⟨hmem, hliteral⟩ := List.mem_filter.mp he
      exact hliterals e hmem (by simpa using hliteral) (List.isPrefixOf_iff_prefix.mp hstarts)
    · obtain ⟨e, he, hparse⟩ := List.mem_filterMap.mp htokens
      obtain ⟨hmem, hpattern⟩ := List.mem_filter.mp he
      exact hpatterns e hmem hpattern tokens (eq_ok_of_toOption hparse)
        (Glob.accepts_iff.mp haccepts)

theorem hasExtension_eq_true_iff {extensions : List String} :
    hasExtension extensions path = true ↔ ∃ ext ∈ extensions, Path.extension? path = some ext := by
  unfold hasExtension
  rcases Path.extension? path with _ | ext <;> simp

/-- The files below a directory, with the paths that lead there from the path of the directory. -/
theorem exists_pathBelow?_iff (hw : w.WellFormed) {loc : Location} :
    (∃ file ∈ w.disk.files, pathBelow? loc directory file = some path) ↔
      ∃ names content mode, names ≠ [] ∧
        w.disk.get? (loc ++ names) = some (.file content mode) ∧
        path = names.foldl Path.join directory := by
  have hpath : ∀ {names : Location} {content : Content}, names ≠ [] →
      pathBelow? loc directory (loc ++ names, content) =
        some (names.foldl Path.join directory) := by
    intro names content hne
    have hlength := List.length_pos_iff.mpr hne
    simp [pathBelow?, hlength]
  constructor
  · rintro ⟨⟨file, content⟩, hfile, hbelow⟩
    obtain ⟨names, hne, heq⟩ := exists_of_pathBelow? hbelow
    obtain rfl : file = loc ++ names := heq
    obtain ⟨mode, hnode⟩ :=
      Disk.content?_eq_some_iff.mp ((Disk.mem_files_iff hw.disk).mp hfile)
    rw [hpath hne] at hbelow
    exact ⟨names, content, mode, hne, hnode, (Option.some.inj hbelow).symm⟩
  · rintro ⟨names, content, mode, hne, hnode, rfl⟩
    refine ⟨(loc ++ names, content), (Disk.mem_files_iff hw.disk).mpr ?_, hpath hne⟩
    exact Disk.content?_eq_some_iff.mpr ⟨mode, hnode⟩

/-- A file that a scan of a directory is to find. -/
structure Sought (w : Workspace) (extensions : List String) (base : String)
    (entries : List String) (directory path : String) : Prop where
  /-- It lies below the directory and its name ends with an extension. -/
  file : ∃ front stem ext content mode,
    w.disk.get? (w.place directory ++ (front ++ [stem ++ "." ++ ext])) =
      some (.file content mode) ∧
    path = (front ++ [stem ++ "." ++ ext]).foldl Path.join directory ∧
    stem ≠ "" ∧ '.' ∉ ext.toList ∧ ext ∈ extensions
  apart : ∀ e ∈ entries, isPattern e = false →
    ¬ Path.parts (Path.join base e) <+: Path.parts path
  unmatched : ∀ e ∈ entries, isPattern e = true → ∀ tokens, Glob.parse e = .ok tokens →
    ¬ Glob.Matches tokens path.toList

theorem isNamed_of_get?_append (hw : w.WellFormed) {loc names : Location} {node : Node}
    (hne : names ≠ []) (h : w.disk.get? (loc ++ names) = some node) : Location.IsNamed names :=
  fun name hname => (hw.disk.named _ (Disk.mem_nodes_of_get? (by simp [hne]) h)).2 name
    (List.mem_append_right _ hname)

theorem mem_sourceFiles_iff_sought (hw : w.WellFormed) (hdir : w.hasDirectory directory = true)
    {extensions entries : List String} {base : String} :
    path ∈ (sourceFiles w extensions (.ofEntries base entries) directory).files ↔
      Sought w extensions base entries directory path := by
  obtain ⟨hloc, mode, hnode⟩ := Workspace.hasDirectory_eq_true_iff.mp hdir
  rw [mem_sourceFiles_iff hloc hnode, exists_pathBelow?_iff hw, ignores_ofEntries_eq_false_iff,
    hasExtension_eq_true_iff]
  constructor
  · rintro ⟨⟨names, content, mode, hne, hfile, rfl⟩, ⟨hapart, hunmatched⟩, ext, hext, hextension⟩
    have hnamed := isNamed_of_get?_append hw hne hfile
    obtain ⟨front, name, rfl⟩ : ∃ front name, names = front ++ [name] :=
      ⟨_, _, (List.dropLast_concat_getLast hne).symm⟩
    obtain ⟨stem, rfl, hstem, hpoint⟩ :=
      (Path.extension?_foldl_join directory hnamed).mp hextension
    exact ⟨⟨front, stem, ext, content, mode, hfile, rfl, hstem, hpoint, hext⟩, hapart, hunmatched⟩
  · rintro ⟨⟨front, stem, ext, content, mode, hfile, rfl, hstem, hpoint, hext⟩, hapart, hunmatched⟩
    have hnamed := isNamed_of_get?_append hw (by simp) hfile
    refine ⟨⟨_, content, mode, by simp, hfile, rfl⟩, ⟨hapart, hunmatched⟩, ext, hext, ?_⟩
    exact (Path.extension?_foldl_join directory hnamed).mpr ⟨stem, rfl, hstem, hpoint⟩

/-- Two paths that lead down from a directory are the same text if they have the same parts. -/
theorem eq_of_parts_eq {names names' : Location} (h : Location.IsNamed names)
    (h' : Location.IsNamed names') (heq : Path.parts (names.foldl Path.join directory) =
      Path.parts (names'.foldl Path.join directory)) : names = names' := by
  rw [(Path.parts_foldl_join directory h).1, (Path.parts_foldl_join directory h').1,
    List.append_cancel_left_eq] at heq
  exact List.map_inj_right (fun _ _ => Path.Part.name.inj) |>.mp heq

theorem Sought.eq_of_parts (hw : w.WellFormed) {extensions entries : List String} {base : String}
    {path' : String} (h : Sought w extensions base entries directory path)
    (h' : Sought w extensions base entries directory path')
    (heq : Path.parts path = Path.parts path') : path = path' := by
  obtain ⟨front, stem, ext, _, _, hfile, rfl, -⟩ := h.file
  obtain ⟨front', stem', ext', _, _, hfile', rfl, -⟩ := h'.file
  rw [eq_of_parts_eq (isNamed_of_get?_append hw (by simp) hfile)
    (isNamed_of_get?_append hw (by simp) hfile') heq]

theorem nodup_sourceFiles (hw : w.WellFormed) (extensions : List String) (rules : IgnoreRules)
    (directory : String) : (sourceFiles w extensions rules directory).files.Nodup := by
  refine List.Pairwise.of_map w.place ?_ (places_of_sourceFiles hw extensions rules directory).1
  rintro a b hne rfl
  exact hne rfl

/-- The files of a scan come in the strict order of paths. -/
theorem pairwise_before_sourceFiles (hw : w.WellFormed) (hdir : w.hasDirectory directory = true)
    (extensions : List String) (base : String) (entries : List String) :
    (sourceFiles w extensions (.ofEntries base entries) directory).files.Pairwise Path.Before := by
  have hsorted := pairwise_sourceFiles w extensions (.ofEntries base entries) directory
  have hnodup := nodup_sourceFiles hw extensions (.ofEntries base entries) directory
  refine (hsorted.and hnodup).imp_of_mem ?_
  rintro a b ha hb ⟨hle, hne⟩
  refine Path.lex_of_partsLe hle fun heq => hne ?_
  exact ((mem_sourceFiles_iff_sought hw hdir).mp ha).eq_of_parts hw
    ((mem_sourceFiles_iff_sought hw hdir).mp hb) heq

section Listed

variable {w' : Workspace} (hdirectory : w'.directory = w.directory)
  (hget : ∀ loc, w'.disk.get? loc = w.disk.get? loc)

include hdirectory hget

theorem hasDirectory_of_get? (h : w.hasDirectory directory = true) :
    w'.hasDirectory directory = true := by
  obtain ⟨hloc, mode, hnode⟩ := Workspace.hasDirectory_eq_true_iff.mp h
  have hloc' := Workspace.locate_of_directories hdirectory (fun h => (hget _).trans h) hloc hnode
  rw [Workspace.hasDirectory_eq_true_iff, Workspace.place_eq_of_directory hdirectory]
  exact ⟨hloc', mode, (hget _).trans hnode⟩

theorem sought_iff_of_get? {extensions entries : List String} {base : String} :
    Sought w' extensions base entries directory path ↔
      Sought w extensions base entries directory path := by
  have hplace := Workspace.place_eq_of_directory hdirectory directory
  constructor
  · rintro ⟨hfile, hapart, hunmatched⟩
    simp only [hplace, hget] at hfile
    exact ⟨hfile, hapart, hunmatched⟩
  · rintro ⟨hfile, hapart, hunmatched⟩
    refine ⟨?_, hapart, hunmatched⟩
    simp only [hplace, hget]
    exact hfile

end Listed

theorem sourceFiles_eq_mk (hdir : w.hasDirectory directory = true) (extensions : List String)
    (rules : IgnoreRules) : sourceFiles w extensions rules directory =
      ⟨(sourceFiles w extensions rules directory).files, []⟩ := by
  obtain ⟨hloc, mode, hnode⟩ := Workspace.hasDirectory_eq_true_iff.mp hdir
  simp only [sourceFiles, regularFiles_of_directory hloc hnode]

/-- The order in which the nodes of a disk are listed does not matter. -/
theorem sourceFiles_of_perm (hw : w.WellFormed) (hdir : w.hasDirectory directory = true)
    (extensions : List String) (base : String) (entries : List String) {w' : Workspace}
    (hdirectory : w'.directory = w.directory) (hperm : w'.disk.nodes.Perm w.disk.nodes) :
    sourceFiles w' extensions (.ofEntries base entries) directory =
      sourceFiles w extensions (.ofEntries base entries) directory := by
  have hget := hw.disk.get?_of_perm hperm
  have hw' : w'.WellFormed := ⟨hw.disk.of_perm hperm, hdirectory ▸ hw.directory⟩
  have hdir' := hasDirectory_of_get? hdirectory hget hdir
  have hmem : ∀ path,
      path ∈ (sourceFiles w' extensions (.ofEntries base entries) directory).files ↔
        path ∈ (sourceFiles w extensions (.ofEntries base entries) directory).files := by
    intro path
    rw [mem_sourceFiles_iff_sought hw' hdir', mem_sourceFiles_iff_sought hw hdir,
      sought_iff_of_get? hdirectory hget]
  rw [sourceFiles_eq_mk hdir', sourceFiles_eq_mk hdir, Found.mk.injEq]
  refine ⟨?_, rfl⟩
  -- Both lists hold the same paths, and there is one way to sort them.
  apply List.Perm.eq_of_pairwise
  · intro a b ha hb hab hba
    exact ((mem_sourceFiles_iff_sought hw hdir).mp ((hmem a).mp ha)).eq_of_parts hw
      ((mem_sourceFiles_iff_sought hw hdir).mp hb) (Path.partsLe_antisymm hab hba)
  · exact pairwise_sourceFiles w' extensions _ directory
  · exact pairwise_sourceFiles w extensions _ directory
  · exact (List.perm_ext_iff_of_nodup (nodup_sourceFiles hw' extensions _ directory)
      (nodup_sourceFiles hw extensions _ directory)).mpr hmem

/-- A scan of a directory finds the files that it is to find and no others, in the strict order of
paths and without repetition, in whatever order the disk lists its nodes. -/
theorem sourceFiles_exact (hw : w.WellFormed) (hdir : w.hasDirectory directory = true)
    (extensions : List String) (base : String) (entries : List String) :
    (∀ path, path ∈ (sourceFiles w extensions (.ofEntries base entries) directory).files ↔
      Sought w extensions base entries directory path) ∧
    (sourceFiles w extensions (.ofEntries base entries) directory).files.Pairwise Path.Before ∧
    (sourceFiles w extensions (.ofEntries base entries) directory).files.Nodup ∧
    ∀ w' : Workspace, w'.directory = w.directory → w'.disk.nodes.Perm w.disk.nodes →
      sourceFiles w' extensions (.ofEntries base entries) directory =
        sourceFiles w extensions (.ofEntries base entries) directory := by
  refine ⟨fun path => mem_sourceFiles_iff_sought hw hdir, ?_, ?_, fun w' hdirectory hperm => ?_⟩
  · exact pairwise_before_sourceFiles hw hdir extensions base entries
  · exact nodup_sourceFiles hw extensions _ directory
  · exact sourceFiles_of_perm hw hdir extensions base entries hdirectory hperm

/-- Components beside a directory of old ones, a test and a file without an extension. -/
def cupboard : Workspace where
  disk := ⟨[(["src"], .directory 0o755), (["src", "Home"], .directory 0o755),
    (["src", "Home", "Older.js"], .file (.text "") 0o644),
    (["src", "Home", "Note.test.js"], .file (.text "") 0o644),
    (["src", "Home", ".js"], .file (.text "") 0o644),
    (["src", "Home", "Old"], .directory 0o755),
    (["src", "Home", "Old", "Card.js"], .file (.text "") 0o644),
    (["src", "Home", "New"], .directory 0o755),
    (["src", "Home", "New", "Card.v2.jsx"], .file (.text "") 0o644)]⟩
  directory := []

def upturned : Workspace := { cupboard with disk := ⟨cupboard.disk.nodes.reverse⟩ }

/-- What a scan of the components finds in a workspace. -/
def homeScan (w : Workspace) : Found :=
  sourceFiles w ["js", "jsx"] (.ofEntries "src" ["Home/Old", "**/*.test.js"]) "src/Home"

structure CupboardFacts : Prop where
  named : (∀ p ∈ cupboard.disk.nodes, p.1 ≠ [] ∧ p.1.IsNamed) ∧
    (cupboard.disk.nodes.map (·.1)).Nodup
  reached : cupboard.hasDirectory "src/Home" = true
  kept : (regularFiles cupboard "src/Home").toOption.map (·.filter fun p =>
      !(IgnoreRules.ofEntries "src" ["Home/Old", "**/*.test.js"]).ignores p &&
        hasExtension ["js", "jsx"] p) =
    some ["src/Home/Older.js", "src/Home/New/Card.v2.jsx"]
  order : Path.le "src/Home/Older.js" "src/Home/New/Card.v2.jsx" = false

theorem cupboardFacts : CupboardFacts := by
  refine (fun ⟨a, b, c, d⟩ => ⟨a, b, c, d⟩ : _ ∧ _ ∧ _ ∧ _ → _) ?_
  decide +kernel

theorem homeScan_cupboard :
    homeScan cupboard = ⟨["src/Home/New/Card.v2.jsx", "src/Home/Older.js"], []⟩ := by
  obtain ⟨all, hall, hkept⟩ := Option.map_eq_some_iff.mp cupboardFacts.kept
  simp only [homeScan, sourceFiles, eq_ok_of_toOption hall, hkept]
  simp [List.mergeSort, cupboardFacts.order]

theorem wellFormed_cupboard : cupboard.WellFormed where
  disk := ⟨cupboardFacts.named.2, cupboardFacts.named.1⟩
  directory := by
    intro name hname
    cases hname

/-- The same two components are found when the disk is listed backwards. -/
theorem upturned_found :
    cupboard.WellFormed ∧ cupboard.hasDirectory "src/Home" = true ∧
    Sought cupboard ["js", "jsx"] "src" ["Home/Old", "**/*.test.js"] "src/Home"
      "src/Home/Older.js" ∧
    homeScan upturned = ⟨["src/Home/New/Card.v2.jsx", "src/Home/Older.js"], []⟩ := by
  obtain ⟨hmem, -, -, hperm⟩ := sourceFiles_exact wellFormed_cupboard cupboardFacts.reached
    ["js", "jsx"] "src" ["Home/Old", "**/*.test.js"]
  have hfound := homeScan_cupboard
  unfold homeScan at hfound ⊢
  refine ⟨wellFormed_cupboard, cupboardFacts.reached, (hmem _).mp ?_, ?_⟩
  · rw [hfound]
    decide
  · rw [hperm upturned rfl (List.reverse_perm _), hfound]

end Scan

end Phrasebook
