import Phrasebook.Proofs.Run.Isolation

/-!
A namespace does not depend on the others.

A run that is asked for one namespace only gives the report that a run over all of them gives, and
leaves the files and catalogs of the namespace the same. The turns before it may have made
directories that the other run has yet to make, and that is all that it can see of them. Only a way
to the catalogs that goes up out of such a directory can tell the two runs apart.
-/

namespace Phrasebook

open Disk (Location)
open Workspace (Paired Tracks Trails)

/-- A steady path goes down by names from a directory that is there. -/
theorem Workspace.Steady.exists_directory {w : Workspace} {path : String} (h : w.Steady path)
    (hrooted : w.Rooted) :
    ∃ (front : List Path.Part) (loc : Location) (names : List String),
      Path.parts path = front ++ names.map .name ∧ w.disk.walk (w.origin path) front = .ok loc ∧
      w.disk.kind? loc = some none := by
  obtain ⟨front, loc, names, hparts, hwalk⟩ := h
  rcases List.eq_nil_or_concat front with rfl | ⟨before, part, rfl⟩
  · obtain rfl := Except.ok.inj hwalk
    exact ⟨[], _, names, hparts, rfl, Disk.kind?_eq_directory_iff.mpr (hrooted.origin path)⟩
  rw [List.concat_eq_append] at hparts hwalk
  rw [Disk.walk_append] at hwalk
  obtain ⟨mid, hmid, hstep⟩ := exists_of_bind_eq_ok hwalk
  have hdir : ∃ mode, w.disk.get? mid = some (.directory mode) := by
    rcases hnode : w.disk.get? mid with _ | ⟨content, mode⟩ | mode
    · simp [Disk.walk, Disk.step, hnode] at hstep
    · simp [Disk.walk, Disk.step, hnode] at hstep
    · exact ⟨mode, rfl⟩
  have hwhole : w.disk.walk (w.origin path) (before ++ [part]) = .ok loc := by
    rw [Disk.walk_append, hmid]
    exact hstep
  rw [Disk.step_singleton] at hstep
  obtain ⟨mode, hmode⟩ := hdir
  cases part with
  | name name =>
      exact ⟨before, mid, name :: names, by rw [hparts]; simp, hmid, Disk.kind?_of_get? hmode⟩
  | root =>
      simp only [Disk.step, hmode, Except.ok.injEq] at hstep
      subst hstep
      exact ⟨_, [], names, hparts, hwhole, rfl⟩
  | here =>
      simp only [Disk.step, hmode, Except.ok.injEq] at hstep
      subst hstep
      exact ⟨_, mid, names, hparts, hwhole, Disk.kind?_of_get? hmode⟩
  | up =>
      simp only [Disk.step, hmode, Except.ok.injEq] at hstep
      subst hstep
      refine ⟨_, _, names, hparts, hwhole, Disk.kind?_eq_directory_iff.mpr ?_⟩
      rcases List.eq_nil_or_concat mid with rfl | ⟨above, name, rfl⟩
      · exact ⟨mode, hmode⟩
      · rw [List.concat_eq_append] at hmode ⊢
        rw [List.dropLast_concat]
        exact hrooted.parent hmode

/-- A steady path goes the same way after some writes. -/
theorem Workspace.Steady.tracks {w w' : Workspace} {path : String} {places : List Location}
    {shared : Location → Prop} (h : w.Steady path) (hrooted : w.Rooted)
    (hchanges : w.Changes places w') (hshared : ∀ loc, loc <+: w.place path → shared loc) :
    Tracks shared w w' path := by
  obtain ⟨front, loc, names, hparts, hwalk, hdir⟩ := h.exists_directory hrooted
  refine ⟨front, loc, names, hparts, hwalk, ?_, hdir, hchanges.disk.kind?_directory hdir,
    fun down hdown _ => hshared _ ?_⟩
  · rw [origin_eq_of_directory hchanges.directory]
    exact hchanges.disk.walk_eq hwalk
  · rw [Steady.place_eq hparts hwalk]
    exact List.prefix_append_right_inj _ |>.mpr hdown

namespace Scan

theorem isSelected_singleton {name entry : String} (hname : Path.IsName name)
    (hentry : entry = name ∨ entry = "/" ++ name) (other : String) :
    isSelected [entry] other = true ↔ other = name := by
  have hslash : name.toList.dropWhile (· = '/') = name.toList := by
    obtain ⟨-, -, -, hfree⟩ := hname
    cases hlist : name.toList with
    | nil => rfl
    | cons c cs =>
        have hc : c ≠ '/' := by
          rintro rfl
          exact hfree (hlist ▸ List.mem_cons_self)
        simp [hc]
  have hstrip : String.ofList (entry.toList.dropWhile (· = '/')) = name := by
    rcases hentry with rfl | rfl
    · rw [hslash, String.ofList_toList]
    · have hfront : ("/" ++ name).toList = '/' :: name.toList := by
        rw [String.toList_append]
        rfl
      rw [hfront, List.dropWhile_cons_of_pos (by decide), hslash, String.ofList_toList]
  simp [isSelected, hstrip, eq_comm]

/-- A project with a single namespace asked for. -/
theorem namespaces_singleton {w : Workspace} (hw : w.WellFormed) {root : String}
    {found : List Namespace} (hfound : namespaces w root [] = .ok found) {n : Namespace}
    (hn : n ∈ found) {entry : String} (hentry : entry = n.name ∨ entry = "/" ++ n.name) :
    namespaces w root [entry] = .ok [n] := by
  obtain ⟨nodes, hnodes, -⟩ := exists_of_map_eq_ok hfound
  obtain ⟨alone, halone⟩ : ∃ alone, namespaces w root [entry] = .ok alone := by
    rw [namespaces, hnodes]
    exact ⟨_, rfl⟩
  obtain ⟨_, _, -, -, -, hproper⟩ := exists_of_namespaces hw hfound
  obtain ⟨hdirectory, hname, -⟩ := hproper n hn
  have hmem : ∀ m, m ∈ alone ↔ m = n := by
    intro m
    rw [mem_namespaces_iff hw halone, isSelected_singleton hname hentry]
    obtain ⟨-, -, hthere⟩ := (mem_namespaces_iff hw hfound).mp hn
    constructor
    · rintro ⟨hdirectory', hname', -⟩
      cases m
      cases n
      simp_all
    · rintro rfl
      exact ⟨hdirectory, rfl, hthere⟩
  obtain ⟨_, _, -, -, hnodup, -⟩ := exists_of_namespaces hw halone
  rw [halone]
  rcases alone with _ | ⟨first, _ | ⟨second, rest⟩⟩
  · exact absurd ((hmem n).mpr rfl) List.not_mem_nil
  · rw [(hmem first).mp List.mem_cons_self]
  · have hfirst := (hmem first).mp List.mem_cons_self
    have hsecond := (hmem second).mp (List.mem_cons_of_mem _ List.mem_cons_self)
    rw [hfirst, hsecond] at hnodup
    simp at hnodup

end Scan

namespace Run

/-- The places on the way to what belongs to a namespace. -/
def OnWay (s : Settings) (w : Workspace) (namespaceName : String) (loc : Location) : Prop :=
  ∃ place, Owns s w namespaceName place ∧ loc <+: place

section

variable {s : Settings} {w : Workspace} {found : List Scan.Namespace}
  (hproper : ∀ m ∈ found, Proper s w m)
  (hlocales : ∀ locale ∈ s.baseLocale :: s.mockLocales, Path.IsName locale)
include hproper hlocales

/-- What belongs to one namespace and is above something of another was there before the run. -/
theorem exists_node_above (hrooted : w.Rooted) {n m : Scan.Namespace} (hn : n ∈ found)
    (hm : m ∈ found) (hne : n.name ≠ m.name) {loc place : Location} (hloc : Owns s w n.name loc)
    (hplace : Owns s w m.name place) (habove : loc <+: place) :
    ∃ mode, w.disk.get? loc = some (.directory mode) := by
  have hloc' : Others s w found m.name loc := ⟨n, hn, hne, hloc⟩
  obtain ⟨rest, hrest⟩ := hloc'.prefix_directory hproper hm hlocales hplace habove
  obtain ⟨mode, hdir⟩ := (hproper m hm).there
  rw [← hrest] at hdir
  by_cases hnil : rest = []
  · rw [hnil, List.append_nil] at hdir
    exact ⟨mode, hdir⟩
  · exact hrooted.directory_of_get? hnil hdir

/-- After others have had their turns, a namespace sees at most new directories on its ways. -/
theorem trails_of_others (hw : w.WellFormed) (hrooted : w.Rooted) {n : Scan.Namespace}
    (hn : n ∈ found) {written : List Location} {current : Workspace}
    (hgrows : w.Grows written current) (hothers : ∀ loc ∈ written, Others s w found n.name loc) :
    Trails (OnWay s w n.name) (Owns s w n.name) w current where
  directory := hgrows.directory
  rooted := hrooted
  present := by
    rw [hgrows.directory]
    exact hgrows.disk.kind?_directory (Disk.kind?_eq_directory_iff.mpr hrooted.directory)
  formed := ⟨hw, hgrows.toChanges.wellFormed hw⟩
  node := by
    rintro loc ⟨place, hplace, habove⟩
    by_cases hloc : loc ∈ written
    · obtain ⟨m, hm, hne, howns⟩ := hothers loc hloc
      have hdir := Disk.kind?_eq_directory_iff.mpr
        (exists_node_above hproper hlocales hrooted hm hn hne howns hplace habove)
      exact Or.inl ((hgrows.disk.kind?_directory hdir).trans hdir.symm)
    · exact hgrows.toChanges.kind?_cases hw hloc
  same := by
    intro loc howns
    have hloc : loc ∉ written := by
      intro hmem
      obtain ⟨m, hm, hne, howns'⟩ := hothers loc hmem
      exact hne ((hproper m hm).name_eq_of_owns (hproper n hn) howns' howns)
    rcases hgrows.toChanges.kind?_cases hw hloc with hsame | ⟨hnone, hdir⟩
    · exact hsame
    -- A new directory lies above a file of another namespace, where there was one already.
    · have hnone' := Disk.kind?_eq_none_iff.mp hnone
      obtain ⟨mode, hmade⟩ := Disk.kind?_eq_directory_iff.mp hdir
      rcases hgrows.added (by rw [hmade]; simp) with hold | ⟨place, hplace, habove⟩
      · exact absurd hnone' hold
      · obtain ⟨m, hm, hne, howns'⟩ := hothers place hplace
        obtain ⟨mode', hdir'⟩ := exists_node_above hproper hlocales hrooted hn hm hne.symm howns
          howns' habove
        rw [hnone'] at hdir'
        cases hdir'

theorem paired_of_others (hw : w.WellFormed) (hrooted : w.Rooted) (hstore : w.Steady s.store.root)
    {n : Scan.Namespace} (hn : n ∈ found) {written : List Location} {current : Workspace}
    (hgrows : w.Grows written current) (hothers : ∀ loc ∈ written, Others s w found n.name loc) :
    Paired (OnWay s w n.name) (Owns s w n.name) (scanned s w n.name ++ s.store.paths n.name) w
      current := by
  have howned : ∀ path ∈ scanned s w n.name ++ s.store.paths n.name,
      Owns s w n.name (w.place path) := by
    intro path hpath
    refine (hproper n hn).owns_of_mem hw ?_
    rw [Catalog.Store.places, ← List.map_append]
    exact List.mem_map_of_mem hpath
  refine ⟨trails_of_others hproper hlocales hw hrooted hn hgrows hothers, fun path hpath => ?_,
    howned⟩
  have hsteady : w.Steady path := by
    rcases List.mem_append.mp hpath with hfile | hcatalog
    · exact ((hproper n hn).exists_of_mem_scanned hw hfile).1
    · obtain ⟨locale, hlocale, rfl⟩ := List.mem_map.mp hcatalog
      exact Catalog.Store.steady_path hstore (hlocales _ hlocale) (hproper n hn).isName
  exact hsteady.tracks hrooted hgrows.toChanges fun loc hloc => ⟨_, howned path hpath, hloc⟩

end

section

variable {e : Engine} {s : Settings} {w : Workspace} {found : List Scan.Namespace}
  (hwrite : e.write = Workspace.replace) (happly : s.apply = true) (hw : w.WellFormed)
  (hrooted : w.Rooted) (hproper : ∀ m ∈ found, Proper s w m)
  (hlocales : ∀ locale ∈ s.baseLocale :: s.mockLocales, Path.IsName locale)
  (hstore : w.Steady s.store.root)
include hwrite happly hw hproper hlocales hstore

/-- The turn of a namespace adds nothing but above its own files and catalogs. -/
theorem grows_turn {n : Scan.Namespace} (hn : n ∈ found) {written : List Location}
    {current next : Workspace} (hgrows : w.Grows written current) {r : NamespaceReport}
    {files : Scan.Found} (hfiles : files.files = scanned s w n.name)
    (hturn : migrateFiles e s n.name files current = (next, r)) :
    w.Grows (written ++ ((scanned s w n.name).map w.place ++ s.store.places w n.name)) next := by
  have hsteady : ∀ path ∈ s.store.paths n.name, current.Steady path := by
    intro path hpath
    obtain ⟨locale, hlocale, rfl⟩ := List.mem_map.mp hpath
    exact hgrows.steady
      (Catalog.Store.steady_path hstore (hlocales _ hlocale) (hproper n hn).isName)
  have hsources : ∀ path ∈ files.files, current.Steady path := fun path hpath =>
    hgrows.steady ((hproper n hn).exists_of_mem_scanned hw (hfiles ▸ hpath)).1
  have hnext := grows_migrateFiles hwrite happly (hgrows.wellFormed hw) hsources hsteady
  rw [hturn, hfiles, funext hgrows.place_eq,
    Catalog.Store.places_eq_of_directory hgrows.directory] at hnext
  exact (hgrows.mono (by simp)).trans (hnext.mono (by simp))

/-- The turn of a namespace in a run: what was written before belongs to others, and so does what
is written after it. -/
theorem exists_turn_among_others {mode : Nat}
    (hroot : w.locate s.componentsRoot = .ok (w.place s.componentsRoot))
    (hdir : w.disk.get? (w.place s.componentsRoot) = some (.directory mode))
    {namespaces : List Scan.Namespace} (hsub : ∀ m ∈ namespaces, m ∈ found)
    (hnodup : (namespaces.map (·.name)).Nodup) {current : Workspace} {written : List Location}
    (hgrows : w.Grows written current)
    (howned : ∀ loc ∈ written, ∃ m ∈ found, m.name ∉ namespaces.map (·.name) ∧
      Owns s w m.name loc)
    {last : Workspace} {reports : List NamespaceReport} {warnings : List Scan.Warning}
    (h : migrateNamespaces e s (.ofEntries s.componentsRoot s.ignores) namespaces current =
      (last, reports, warnings)) {n : Scan.Namespace} (hn : n ∈ namespaces) :
    ∃ start next before after r, w.Grows before start ∧
      (∀ loc ∈ before, Others s w found n.name loc) ∧
      migrateFiles e s n.name (Scan.sourceFiles w s.extensions
        (.ofEntries s.componentsRoot s.ignores) n.directory) start = (next, r) ∧
      next.Changes after last ∧ (∀ loc ∈ after, ¬ Owns s w n.name loc) ∧
      reports.filter (·.name = n.name) = [r] := by
  have hmayFail : e.write.MayFail := hwrite ▸ Writer.mayFail_replace
  induction namespaces generalizing current written reports warnings with
  | nil => cases hn
  | cons first rest ih =>
      obtain ⟨hnew, hnodup'⟩ := List.nodup_cons.mp hnodup
      have hfirst := hproper first (hsub first List.mem_cons_self)
      have hfree : ∀ m ∈ first :: rest, ∀ loc ∈ written, ¬ Owns s w m.name loc := by
        intro m hm loc hloc howns
        obtain ⟨m', hm', hfresh, howns'⟩ := howned loc hloc
        rw [(hproper m' hm').name_eq_of_owns (hproper m (hsub m hm)) howns' howns] at hfresh
        exact hfresh (List.mem_map_of_mem hm)
      have hscan := hfirst.sourceFiles_eq hroot hdir hgrows.toChanges
        (hfree first List.mem_cons_self)
      rw [migrateNamespaces] at h
      simp only [hscan] at h
      rcases hturn : migrateFiles e s first.name (Scan.sourceFiles w s.extensions
        (.ofEntries s.componentsRoot s.ignores) first.directory) current with ⟨next, r⟩
      rcases hrest : migrateNamespaces e s (.ofEntries s.componentsRoot s.ignores) rest next with
        ⟨last', reports', warnings'⟩
      simp only [hturn, hrest] at h
      cases h
      have hname : r.name = first.name := by
        have := name_migrateFiles e s first.name (Scan.sourceFiles w s.extensions
          (.ofEntries s.componentsRoot s.ignores) first.directory) current
        rwa [hturn] at this
      have hnext := grows_turn hwrite happly hw hproper hlocales hstore
        (hsub first List.mem_cons_self) hgrows hfirst.files_sourceFiles hturn
      have howned' : ∀ loc ∈ written ++ ((scanned s w first.name).map w.place ++
          s.store.places w first.name), ∃ m ∈ found, m.name ∉ rest.map (·.name) ∧
            Owns s w m.name loc := by
        intro loc hloc
        rcases List.mem_append.mp hloc with hloc | hloc
        · obtain ⟨m, hm, hfresh, howns⟩ := howned loc hloc
          exact ⟨m, hm, fun hmem => hfresh (List.mem_cons_of_mem _ hmem), howns⟩
        · exact ⟨first, hsub first List.mem_cons_self, hnew, hfirst.owns_of_mem hw hloc⟩
      have hsub' : ∀ m ∈ rest, m ∈ found := fun m hm => hsub m (List.mem_cons_of_mem _ hm)
      obtain ⟨hnames, hturns, hchanges⟩ := migrateNamespaces_turns hmayFail happly hw hroot hdir
        (fun m hm => hproper m (hsub' m hm)) hnodup' hnext.toChanges
        (fun m hm loc hloc howns => by
          obtain ⟨m', hm', hfresh, howns'⟩ := howned' loc hloc
          rw [(hproper m' hm').name_eq_of_owns (hproper m (hsub' m hm)) howns' howns] at hfresh
          exact hfresh (List.mem_map_of_mem hm)) hrest
      rcases List.mem_cons.mp hn with rfl | hn
      · have hothers : ∀ r' ∈ reports', r'.name ≠ n.name := by
          intro r' hr' heq
          have hmem : r'.name ∈ rest.map (·.name) := hnames ▸ List.mem_map_of_mem hr'
          rw [heq] at hmem
          exact hnew hmem
        refine ⟨current, next, written, _, r, hgrows, ?_, hturn, hchanges, ?_, ?_⟩
        · intro loc hloc
          obtain ⟨m, hm, hfresh, howns⟩ := howned loc hloc
          exact ⟨m, hm, fun heq => hfresh (heq ▸ List.mem_cons_self), howns⟩
        · intro loc hloc
          obtain ⟨r', hr', hloc⟩ := List.mem_flatMap.mp hloc
          obtain ⟨m, _, _, hturn'⟩ := hturns r' hr'
          exact hturn'.not_owns_touched hmayFail happly hw hfirst (hothers r' hr') loc hloc
        · rw [List.filter_cons_of_pos (by simpa using hname),
            List.filter_eq_nil_iff.mpr fun r' hr' => by simpa using hothers r' hr']
      · have hne : r.name ≠ n.name := by
          intro heq
          have hmem : n.name ∈ rest.map (·.name) := List.mem_map_of_mem hn
          rw [← heq, hname] at hmem
          exact hnew hmem
        obtain ⟨start, next', before, after, r', hstart, hbefore, hturn', hafter, hapart, hr'⟩ :=
          ih hsub' hnodup' hnext howned' hrest hn
        refine ⟨start, next', before, after, r', hstart, hbefore, hturn', hafter, hapart, ?_⟩
        rw [List.filter_cons_of_neg (by simpa using hne), hr']

end

/-- A run over one namespace consists of its turn. -/
theorem migrate_only {e : Engine} {s : Settings} {w : Workspace} {entry : String}
    {n : Scan.Namespace} (h : Scan.namespaces w s.componentsRoot [entry] = .ok [n])
    {found : Scan.Found} (hfound : Scan.sourceFiles w s.extensions
      (.ofEntries s.componentsRoot s.ignores) n.directory = found) :
    ∃ alone, migrate e { s with only := [entry] } w = .ok alone ∧
      alone.workspace = (migrateFiles e s n.name found w).1 ∧
      alone.report.namespaces = [(migrateFiles e s n.name found w).2] :=
  migrate_single (s := { s with only := [entry] }) h hfound rfl

/-- A run that is asked for one namespace gives the report that a run over all of them gives for it,
and what belongs to the namespace holds the same after both, if all steps up to the catalogs can be
taken when the run starts. -/
theorem migrate_alone {e : Engine} {s : Settings} {w : Workspace}
    (hwrite : e.write = Workspace.replace) (happly : s.apply = true) (honly : s.only = [])
    (hw : w.WellFormed) (hrooted : w.Rooted) (hout : s.CatalogsOutside w)
    (hlocales : ∀ locale ∈ s.baseLocale :: s.mockLocales, Path.IsName locale)
    (hclimbable : w.Climbable s.localesRoot) {found : List Scan.Namespace}
    (hfound : Scan.namespaces w s.componentsRoot [] = .ok found) {n : Scan.Namespace}
    (hn : n ∈ found) {entry : String} (hentry : entry = n.name ∨ entry = "/" ++ n.name) :
    ∃ all alone r, migrate e s w = .ok all ∧ migrate e { s with only := [entry] } w = .ok alone ∧
      all.report.namespaces.filter (·.name = n.name) = [r] ∧ alone.report.namespaces = [r] ∧
      ∀ loc, Owns s w n.name loc →
        alone.workspace.disk.content? loc = all.workspace.disk.content? loc := by
  have hfound' : Scan.namespaces w s.componentsRoot s.only = .ok found := honly ▸ hfound
  obtain ⟨hroot, ⟨mode, hdir⟩, hnodup, hproper⟩ := proper_of_namespaces hw hout hfound'
  have hstore := hclimbable.steady hrooted
  obtain ⟨all, hall⟩ := exists_migrate_eq_ok (e := e) hfound'
  obtain ⟨warnings, hrun⟩ := exists_of_migrate hfound' hall
  have hstart : w.Grows [] w := .refl hw
  obtain ⟨start, next, before, after, r, hgrows, hothers, hturn, hafter, hapart, hr⟩ :=
    exists_turn_among_others hwrite happly hw hproper hlocales hstore hroot hdir
      (fun _ hm => hm) hnodup hstart (by simp) hrun hn
  have hpaired := paired_of_others hproper hlocales hw hrooted hstore hn hgrows hothers
  have hfiles := (hproper n hn).files_sourceFiles
  obtain ⟨first, second, r', hfirst, hsecond, hlast⟩ := migrateFiles_paired hwrite happly hpaired
    (fun path hpath => List.mem_append_left _ (hfiles ▸ hpath))
    (fun path hpath => by
      obtain ⟨-, content, hcontent⟩ := (hproper n hn).exists_of_mem_scanned hw (hfiles ▸ hpath)
      obtain ⟨mode', hnode⟩ := Workspace.exists_file_of_contentAt hcontent
      rw [hnode]
      simp)
    (fun path hpath => List.mem_append_right _ hpath)
  obtain ⟨rfl, rfl⟩ := Prod.mk.inj (hturn.symm.trans hsecond)
  obtain ⟨alone, halone, hworkspace, hreports⟩ := migrate_only (e := e) (s := s)
    (Scan.namespaces_singleton hw hfound hn hentry) rfl
  rw [hfirst] at hworkspace hreports
  refine ⟨all, alone, r, hall, halone, hr, hreports, fun loc hloc => ?_⟩
  rw [hafter.disk.content?_eq hlast.formed.2.disk fun hmem => hapart loc hmem hloc, hworkspace,
    Disk.content?_eq_join, Disk.content?_eq_join, hlast.same loc hloc]

theorem place_of_replace {e : Engine} {s : Settings} (hwrite : e.write = Workspace.replace)
    (happly : s.apply = true) {w : Workspace} {path code : String}
    (h : (Workspace.replace w path (.text code)).2 = none) (namespaceName : String) :
    place e s namespaceName none w path code =
      ((Workspace.replace w path (.text code)).1, none) := by
  simp only [place, happly, if_true, hwrite, h, Option.map_none]

/-- A namespace that comes after another one, asked for with a slash in front. -/
theorem noteProject_shop_alone :
    ∃ all alone r, migrate {} (noteSettings "src/../locales") noteProject = .ok all ∧
      migrate {} { noteSettings "src/../locales" with only := ["/Shop"] } noteProject = .ok alone ∧
      all.report.namespaces.filter (·.name = "Shop") = [r] ∧ alone.report.namespaces = [r] ∧
      alone.workspace.disk.content? ["locales", "en", "Shop.json"] =
        all.workspace.disk.content? ["locales", "en", "Shop.json"] := by
  have hfacts := noteFacts "src/../locales" (by simp)
  obtain ⟨all, alone, r, hall, halone, hr, hreports, hcontents⟩ := migrate_alone (e := {})
    (s := noteSettings "src/../locales") rfl rfl rfl wellFormed_noteProject rooted_noteProject
    (catalogsOutside_noteProject hfacts) (by decide) climbable_noteProject
    (namespaces_noteProject hfacts) (List.mem_cons_of_mem _ List.mem_cons_self)
    (Or.inr (show "/Shop" = "/" ++ "Shop" by decide))
  refine ⟨all, alone, r, hall, halone, hr, hreports, hcontents _ (Or.inr ?_)⟩
  decide +kernel

section

variable (read : String → String → Option Script.Module)
  (hread : ∀ n ∈ ["Common", "Shop"], read (notePath n) note = some noteModule ∧
    (read (notePath n) migratedNote).isSome = true)
include hread

/-- The second namespace is migrated if it is alone and its catalog is not seen. -/
theorem migrate_noteProject_shop {root : String} (h : NoteFacts root)
    (hmissing : ∀ path ∈ (noteSettings root).store.paths "Shop", noteProject.has path = false)
    (hwritten : (Workspace.replace noteProject (notePath "Shop") (.text migratedNote)).2 = none) :
    ∃ alone r, migrate (.reading read Mock.shuffled Workspace.replace)
        { noteSettings root with only := ["Shop"] } noteProject = .ok alone ∧
      alone.report.namespaces = [r] ∧ r.files.map (·.status) = [.translated 1] := by
  obtain ⟨m, hm, hcode, hentries⟩ := outcome_note (s := noteSettings root) read hread rfl
    (by simp) (h.source "Shop" (by simp))
  have hplaced := place_of_replace (e := .reading read Mock.shuffled Workspace.replace)
    (s := noteSettings root) rfl rfl (hcode ▸ hwritten) "Shop"
  have hstatus := status_migrateFiles_single hm (Catalog.Store.loadExisting_of_missing hmissing)
    hplaced
  rw [hentries] at hstatus
  have hfound := Scan.namespaces_singleton wellFormed_noteProject (namespaces_noteProject h)
    (List.mem_cons_of_mem _ List.mem_cons_self) (Or.inl (rfl : "Shop" = _))
  obtain ⟨alone, halone, -, hreports⟩ := migrate_only
    (e := .reading read Mock.shuffled Workspace.replace) (s := noteSettings root) hfound
    (sourceFiles_note h (s := noteSettings root) rfl (by simp) (h.found "Shop" (by simp)))
  exact ⟨alone, _, halone, hreports, hstatus⟩

end

/-- A run over all namespaces makes the directory that the way to the catalogs goes up from, and so
finds the catalog of the second namespace, which blocks it. A run over this one alone does not. -/
theorem noteProject_shop_differs :
    noteProject.WellFormed ∧ noteProject.Rooted ∧
      (noteSettings "ghost/../locales").CatalogsOutside noteProject ∧
      (∀ locale ∈ ["en", "de"], Path.IsName locale) ∧
      ∃ all alone, migrate {} (noteSettings "ghost/../locales") noteProject = .ok all ∧
        migrate {} { noteSettings "ghost/../locales" with only := ["Shop"] } noteProject =
          .ok alone ∧
        ∃ r ∈ all.report.namespaces, r.name = "Shop" ∧
          ∃ r', alone.report.namespaces = [r'] ∧ r'.files ≠ r.files := by
  have hfacts := noteFacts "ghost/../locales" (by simp)
  have halone : (∀ path ∈ (noteSettings "ghost/../locales").store.paths "Shop",
      noteProject.has path = false) ∧
      (Workspace.replace noteProject (notePath "Shop") (.text migratedNote)).2 = none := by
    decide +kernel
  obtain ⟨all, message, hall, -, hstatuses⟩ :=
    migrate_noteProject (fun path => Script.parse (.ofPath path)) parse_note hfacts
  obtain ⟨alone, r', halone, hreports, hstatus⟩ := migrate_noteProject_shop
    (fun path => Script.parse (.ofPath path)) parse_note hfacts halone.1 halone.2
  have hout := catalogsOutside_noteProject hfacts
  obtain ⟨⟨found, hfound, hnames⟩, -, -⟩ := turns_of_migrate (e := {}) Writer.mayFail_replace rfl
    wellFormed_noteProject hout hall
  obtain rfl := Except.ok.inj ((namespaces_noteProject hfacts).symm.trans hfound)
  refine ⟨wellFormed_noteProject, rooted_noteProject, hout, by decide, all, alone, hall, halone, ?_⟩
  unfold statuses at hstatuses
  obtain ⟨first, rest, hreport, hfirst, hrest⟩ := List.map_eq_cons_iff.mp hstatuses
  obtain ⟨r, rfl, hr⟩ := List.map_eq_singleton_iff.mp hrest
  rw [hreport] at hnames
  refine ⟨r, by rw [hreport]; simp, ?_, r', hreports, fun heq => ?_⟩
  · simp only [List.map_cons, List.map_nil, List.cons.injEq, and_true] at hnames
    exact hnames.2
  · rw [heq, hr] at hstatus
    cases hstatus

end Run

end Phrasebook
