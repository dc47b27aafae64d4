import Phrasebook.Proofs.Disk.Erase
import Phrasebook.Proofs.Run.Beside
import Phrasebook.Proofs.Run.DryRun

/-!
A catalog that cannot be used blocks its namespace, and no other one.

The run is compared with one in which the catalog is not there. The two agree on all namespaces but
the blocked one, as long as what they need can be reached without the catalog. Only a directory in
its place can be in the way.
-/

namespace Phrasebook

open Disk (Content Location Node)
open Workspace (Tracks Trails)

namespace Scan

variable {w : Workspace} {catalog directory : String}

theorem sourceFiles_without
    (hlocate : (w.without catalog).locate directory = w.locate directory)
    (habove : ¬ w.place catalog <+: w.place directory)
    (hbelow : ¬ w.place directory <+: w.place catalog) (extensions : List String)
    (rules : IgnoreRules) :
    sourceFiles (w.without catalog) extensions rules directory =
      sourceFiles w extensions rules directory := by
  have hregular : regularFiles (w.without catalog) directory = regularFiles w directory := by
    unfold regularFiles
    rw [hlocate]
    cases hloc : w.locate directory with
    | error e => rfl
    | ok loc =>
        obtain rfl := Workspace.eq_place_of_locate hloc
        simp only [Workspace.without, Disk.get?_erase_of_not_prefix habove,
          Disk.below_erase habove hbelow]
  unfold sourceFiles
  rw [hregular]

theorem namespaces_without
    (hlocate : (w.without catalog).locate directory = w.locate directory)
    (habove : ¬ w.place catalog <+: w.place directory)
    (hbelow : ¬ w.place directory <+: w.place catalog) (only : List String) :
    namespaces (w.without catalog) directory only = namespaces w directory only := by
  have hlist : (w.without catalog).list directory = w.list directory := by
    unfold Workspace.list
    rw [hlocate]
    cases hloc : w.locate directory with
    | error e => rfl
    | ok loc =>
        obtain rfl := Workspace.eq_place_of_locate hloc
        simp only [Workspace.without, Disk.get?_erase_of_not_prefix habove, Disk.children,
          Disk.below_erase habove hbelow]
  unfold namespaces
  rw [hlist]

end Scan

/-- Names that lead down from a directory of both workspaces. -/
theorem Workspace.tracks_foldl_join {shared : Location → Prop} {first second : Workspace}
    (base : String) {loc : Location} {names : List String} (hnames : Location.IsNamed names)
    (hroute : first.route base = .ok loc) (hroute' : second.route base = .ok loc)
    (hdir : first.disk.kind? loc = some none) (hdir' : second.disk.kind? loc = some none)
    (hshared : ∀ down, down <+: names → down ≠ [] → shared (loc ++ down)) :
    Tracks shared first second (names.foldl Path.join base) := by
  obtain ⟨hparts, habsolute⟩ := Path.parts_foldl_join base hnames
  have horigin : ∀ w : Workspace, w.origin (names.foldl Path.join base) = w.origin base :=
    fun w => by rw [origin, origin, habsolute]
  refine ⟨Path.parts base, loc, names, hparts, ?_, ?_, hdir, hdir', hshared⟩
  · rw [horigin]
    exact hroute
  · rw [horigin]
    exact hroute'

namespace Run

/-- What a run needs besides the catalog of a namespace: a directory to start from, the components,
and the directory of the catalog. -/
structure Spared (s : Settings) (locale : String) (w : Workspace) : Prop where
  rooted : w.Rooted
  components : w.hasDirectory s.componentsRoot = true
  catalogs : w.hasDirectory (Path.join s.localesRoot locale) = true

/-- What belongs to the namespaces of a project but one. -/
def Others (s : Settings) (w : Workspace) (namespaces : List Scan.Namespace) (stuck : String)
    (loc : Location) : Prop :=
  ∃ n ∈ namespaces, n.name ≠ stuck ∧ Owns s w n.name loc

/-- Neither part of a namespace nor at or below a catalog. -/
def Apart (s : Settings) (w : Workspace) (stuck catalog : String) (loc : Location) : Prop :=
  ¬ Owns s w stuck loc ∧ ¬ w.place catalog <+: loc

section

variable {s : Settings} {w : Workspace} {n : Scan.Namespace} {catalog : String}
  (hn : Proper s w n) (hcatalog : w.place catalog ∈ s.store.places w n.name)
  (hcomponents : (w.without catalog).hasDirectory s.componentsRoot = true)
include hn hcatalog hcomponents

/-- A catalog is not above the components if these can be reached without it. -/
theorem Proper.not_prefix_of_below {loc : Location} (hloc : w.place s.componentsRoot <+: loc) :
    ¬ w.place catalog <+: loc := by
  intro hprefix
  rcases List.prefix_or_prefix_of_prefix hprefix hloc with habove | hbelow
  · obtain ⟨-, mode, hdir⟩ := Workspace.hasDirectory_eq_true_iff.mp hcomponents
    have hroot : w.place catalog ≠ [] := by
      intro hnil
      have hlast := Catalog.Store.getLast?_of_mem_places hn.isName hcatalog
      rw [hnil] at hlast
      cases hlast
    have hnone : (w.without catalog).disk.get? (w.place s.componentsRoot) = none :=
      Disk.get?_erase_of_prefix hroot habove
    rw [Workspace.place_without, hnone] at hdir
    cases hdir
  · exact hn.outside _ hcatalog hbelow

theorem Proper.namespaces_without (hroot : w.hasDirectory s.componentsRoot = true)
    (only : List String) :
    Scan.namespaces (w.without catalog) s.componentsRoot only =
      Scan.namespaces w s.componentsRoot only := by
  have hlocate := (Workspace.hasDirectory_eq_true_iff.mp hroot).1
  have hlocate' := (Workspace.hasDirectory_eq_true_iff.mp hcomponents).1
  rw [Workspace.place_without] at hlocate'
  exact Scan.namespaces_without (hlocate'.trans hlocate.symm)
    (hn.not_prefix_of_below hcatalog hcomponents (List.prefix_refl _)) (hn.outside _ hcatalog) only

variable {m : Scan.Namespace} (hm : Proper s w m)
include hm

theorem Proper.without : Proper s (w.without catalog) m where
  directory := hm.directory
  isName := hm.isName
  there := by
    obtain ⟨mode, hdir⟩ := hm.there
    refine ⟨mode, ?_⟩
    rw [Workspace.place_without, Workspace.get?_without_of_kept
      (hn.not_prefix_of_below hcatalog hcomponents (List.prefix_append _ _)), hdir]
  outside := hm.outside

theorem Proper.locate_without (hroot : w.hasDirectory s.componentsRoot = true) :
    (w.without catalog).locate m.directory = w.locate m.directory := by
  obtain ⟨hlocate, mode, hdir⟩ := Workspace.hasDirectory_eq_true_iff.mp hroot
  obtain ⟨hlocate', mode', hdir'⟩ := Workspace.hasDirectory_eq_true_iff.mp hcomponents
  have hroute : (w.without catalog).route m.directory = w.route m.directory := by
    have hfirst : w.route s.componentsRoot = .ok (w.place s.componentsRoot) :=
      Workspace.walk_of_locate hlocate
    have hsecond : (w.without catalog).route s.componentsRoot = .ok (w.place s.componentsRoot) :=
      Workspace.walk_of_locate hlocate'
    rw [hm.directory, Workspace.route_join _ _ hm.isName, Workspace.route_join _ _ hm.isName,
      hfirst, hsecond]
    exact Disk.step_eq_of_directory hdir hdir' (.name m.name)
  refine Workspace.locate_eq_of_route hroute fun loc hloc => ?_
  obtain rfl : w.place m.directory = loc := Disk.foldl_follow_of_walk hloc
  refine Workspace.get?_without_of_kept (hn.not_prefix_of_below hcatalog hcomponents ?_)
  rw [hm.place_directory]
  exact List.prefix_append _ _

theorem Proper.sourceFiles_without (hroot : w.hasDirectory s.componentsRoot = true) :
    Scan.sourceFiles (w.without catalog) s.extensions (.ofEntries s.componentsRoot s.ignores)
        m.directory =
      Scan.sourceFiles w s.extensions (.ofEntries s.componentsRoot s.ignores) m.directory := by
  have hbelow : w.place s.componentsRoot <+: w.place m.directory := by
    rw [hm.place_directory]
    exact List.prefix_append _ _
  exact Scan.sourceFiles_without (hn.locate_without hcatalog hcomponents hm hroot)
    (hn.not_prefix_of_below hcatalog hcomponents hbelow)
    (fun hprefix => hn.outside _ hcatalog (hbelow.trans hprefix)) _ _

/-- The files of a namespace are found on the same way in both workspaces. -/
theorem Proper.tracks_of_mem_scanned (hw : w.WellFormed)
    (hroot : w.hasDirectory s.componentsRoot = true) {shared : Location → Prop}
    (hshared : ∀ loc, w.place s.componentsRoot ++ [m.name] <+: loc → shared loc) {path : String}
    (hpath : path ∈ scanned s w m.name) : Tracks shared w (w.without catalog) path := by
  obtain ⟨mode, hdir⟩ := hm.there
  obtain ⟨mode', hdir'⟩ := (hn.without hcatalog hcomponents hm).there
  rw [scanned, ← hm.directory] at hpath
  have hlocate := Scan.locate_of_mem_sourceFiles hpath
  have hlocate' := (hn.locate_without hcatalog hcomponents hm hroot).trans hlocate
  rw [Workspace.place_without] at hdir'
  rw [← hm.place_directory] at hdir hdir' hshared
  obtain ⟨⟨names, hnames, rfl⟩, -⟩ := Scan.exists_names_of_mem_sourceFiles hw hdir hpath
  exact Workspace.tracks_foldl_join _ hnames (Workspace.walk_of_locate hlocate)
    (Workspace.walk_of_locate hlocate') (Disk.kind?_of_get? hdir) (Disk.kind?_of_get? hdir')
    fun down _ _ => hshared _ (List.prefix_append _ _)

/-- The files of a namespace read the same in both workspaces. -/
theorem Proper.outcome_without {e : Engine} (hw : w.WellFormed) (hrooted : w.Rooted)
    (hrooted' : (w.without catalog).Rooted) (hroot : w.hasDirectory s.componentsRoot = true)
    {path : String} (hpath : path ∈ scanned s w m.name) :
    outcome e s m.name (w.without catalog) path = outcome e s m.name w path := by
  have hkept : ∀ loc, w.place s.componentsRoot ++ [m.name] <+: loc → ¬ w.place catalog <+: loc :=
    fun loc hloc => hn.not_prefix_of_below hcatalog hcomponents
      ((List.prefix_append _ _).trans hloc)
  obtain ⟨-, content, hcontent⟩ := hm.exists_of_mem_scanned hw hpath
  obtain ⟨mode, hfile⟩ := Workspace.exists_file_of_contentAt hcontent
  refine outcome_congr ((Workspace.trails_without hw hrooted hrooted').readText_eq
    (hn.tracks_of_mem_scanned hcatalog hcomponents hm hw hroot hkept hpath)
    (hkept _ (hm.prefix_of_mem_scanned hw hpath)) ?_)
  rw [hfile]
  simp

end

section

variable {s : Settings} {w : Workspace} {n : Scan.Namespace} {locale : String}
  (hn : Proper s w n)
  (hlocales : ∀ locale ∈ s.baseLocale :: s.mockLocales, Path.IsName locale)
  (hlocale : locale ∈ s.baseLocale :: s.mockLocales)
  (hspared : Spared s locale (w.without (s.store.path n.name locale)))
include hn hlocales hlocale hspared

/-- The directory of all catalogs is reached in both workspaces. -/
theorem Proper.route_locales {node : Node}
    (hnode : w.node (s.store.path n.name locale) = .ok node) :
    (w.route s.localesRoot = .ok (w.place s.localesRoot) ∧
      (w.without (s.store.path n.name locale)).route s.localesRoot =
        .ok (w.place s.localesRoot)) ∧
    w.disk.kind? (w.place s.localesRoot) = some none ∧
      (w.without (s.store.path n.name locale)).disk.kind? (w.place s.localesRoot) = some none := by
  have hlocate : w.locate (s.store.path n.name locale) =
      .ok (w.place (s.store.path n.name locale)) := (Workspace.exists_of_node hnode).1
  have hwalk : w.route (s.store.path n.name locale) =
      .ok (w.place (s.store.path n.name locale)) := Workspace.walk_of_locate hlocate
  have habove := Workspace.exists_of_route_join (Catalog.isName_catalog hn.isName) hwalk
  obtain ⟨hroute, mode, hdir⟩ := Workspace.exists_of_route_join (hlocales _ hlocale) habove.1
  have hlocate' := (Workspace.hasDirectory_eq_true_iff.mp hspared.catalogs).1
  obtain ⟨hroute', mode', hdir'⟩ := Workspace.exists_of_route_join (hlocales _ hlocale)
    (Workspace.walk_of_locate hlocate')
  exact ⟨⟨hroute, hroute'⟩, Disk.kind?_of_get? hdir, Disk.kind?_of_get? hdir'⟩

/-- The catalogs of the other namespaces are found on the same way in both workspaces. -/
theorem Proper.tracks_path {node : Node} (hnode : w.node (s.store.path n.name locale) = .ok node)
    {m : Scan.Namespace} (hm : Proper s w m) (hne : m.name ≠ n.name) {path : String}
    (hpath : path ∈ s.store.paths m.name) :
    Tracks (Apart s w n.name (s.store.path n.name locale)) w
      (w.without (s.store.path n.name locale)) path := by
  obtain ⟨⟨hroute, hroute'⟩, hdir, hdir'⟩ := hn.route_locales hlocales hlocale hspared hnode
  obtain ⟨other, hother, rfl⟩ := List.mem_map.mp hpath
  have hplace := Catalog.Store.place_path (s := s.store) w (hlocales _ hother) hm.isName
  have hplaces : w.place (s.store.path m.name other) ∈ s.store.places w m.name :=
    List.mem_map_of_mem hpath
  have hcatalog := Catalog.Store.place_mem_places (s := s.store) hlocale w n.name
  -- Nothing that belongs to the namespace is at or above the catalog of another one.
  have happart : ∀ loc, loc <+: w.place (s.store.path m.name other) →
      ¬ Owns s w n.name loc := by
    intro loc hloc howns
    rcases howns with hbelow | hmem
    · exact hm.outside _ hplaces ((List.prefix_append _ _).trans (hbelow.trans hloc))
    · exact Catalog.Store.not_prefix_places hlocales hn.isName hm.isName hne.symm hmem hplaces hloc
  have hnamed : Location.IsNamed [other, m.name ++ ".json"] := by
    intro name hname
    rcases List.mem_cons.mp hname with rfl | hname
    · exact hlocales _ hother
    · obtain rfl := List.mem_singleton.mp hname
      exact Catalog.isName_catalog hm.isName
  have hfold : s.store.path m.name other =
      [other, m.name ++ ".json"].foldl Path.join s.localesRoot := by
    rw [Catalog.Store.path, List.foldl_cons, List.foldl_cons, List.foldl_nil, Settings.store]
  rw [hfold]
  refine Workspace.tracks_foldl_join s.localesRoot hnamed hroute hroute' hdir hdir'
    fun down hdown _ => ?_
  have hprefix : w.place s.localesRoot ++ down <+: w.place (s.store.path m.name other) := by
    rw [hplace]
    exact List.prefix_append_right_inj _ |>.mpr hdown
  exact ⟨happart _ hprefix, fun hbelow => happart _ (hbelow.trans hprefix) (Or.inr hcatalog)⟩

/-- The files and catalogs of the namespace can be written without its catalog. -/
theorem Proper.steady_without (hw : w.WellFormed)
    (hroot : w.hasDirectory s.componentsRoot = true) {node : Node}
    (hnode : w.node (s.store.path n.name locale) = .ok node) {path : String}
    (hpath : path ∈ scanned s w n.name ++ s.store.paths n.name) :
    (w.without (s.store.path n.name locale)).Steady path := by
  have hcatalog := Catalog.Store.place_mem_places (s := s.store) hlocale w n.name
  rcases List.mem_append.mp hpath with hfile | hpath
  · have hn' := hn.without hcatalog hspared.components hn
    refine (hn'.exists_of_mem_scanned (hw.without _) ?_).1
    rw [← hn'.files_sourceFiles, hn.sourceFiles_without hcatalog hspared.components hn hroot,
      hn.files_sourceFiles]
    exact hfile
  · obtain ⟨other, hother, rfl⟩ := List.mem_map.mp hpath
    obtain ⟨⟨-, hroute⟩, -⟩ := hn.route_locales hlocales hlocale hspared hnode
    have hsteady : (w.without (s.store.path n.name locale)).Steady s.store.root :=
      ⟨Path.parts s.localesRoot, _, [], by simp [Settings.store], hroute⟩
    exact Catalog.Store.steady_path hsteady (hlocales _ hother) hn.isName

end

/-- Without a file, everything that a run needs is still there. -/
theorem Proper.spared_of_file {s : Settings} {w : Workspace} {n : Scan.Namespace} {locale : String}
    (hn : Proper s w n) (hlocale : Path.IsName locale) (hrooted : w.Rooted)
    (hroot : w.hasDirectory s.componentsRoot = true) {content : Content} {mode : Nat}
    (hnode : w.node (s.store.path n.name locale) = .ok (.file content mode)) :
    Spared s locale (w.without (s.store.path n.name locale)) := by
  obtain ⟨hlocate, hfile⟩ := Workspace.exists_of_node hnode
  have hname := Catalog.isName_catalog hn.isName
  obtain ⟨hroute, dmode, hdir⟩ :=
    Workspace.exists_of_route_join hname (Workspace.walk_of_locate hlocate)
  have hreadable : Workspace.Readable (Path.join s.localesRoot locale) :=
    Workspace.Readable.of_prefix (Workspace.readable_of_locate hlocate) (Path.prefix_join _ hname)
      (Path.extends_join _ hlocale).ne_empty
  have hcatalogs : w.hasDirectory (Path.join s.localesRoot locale) = true := by
    refine Workspace.hasDirectory_eq_true_iff.mpr ⟨?_, dmode, hdir⟩
    refine Workspace.locate_of_route hreadable hroute fun content mode hother => ?_
    exact absurd (hother.symm.trans hdir) (by simp)
  exact ⟨hrooted.without hfile, hrooted.hasDirectory_without hfile hroot,
    hrooted.hasDirectory_without hfile hcatalogs⟩

section

variable {s : Settings} {w : Workspace} {found : List Scan.Namespace} {n : Scan.Namespace}
  (hproper : ∀ m ∈ found, Proper s w m) (hn : n ∈ found)
  (hlocales : ∀ locale ∈ s.baseLocale :: s.mockLocales, Path.IsName locale)
include hproper hn hlocales

/-- What belongs to another namespace and is above something of this one is a directory above the
components. -/
theorem Others.prefix_directory {loc place : Location} (hloc : Others s w found n.name loc)
    (hplace : Owns s w n.name place) (habove : loc <+: place) :
    loc <+: w.place s.componentsRoot ++ [n.name] := by
  obtain ⟨m, hm, hne, howns⟩ := hloc
  have hm' := hproper m hm
  rcases hplace with hbelow | hcatalog
  · rcases howns with hbelow' | hcatalog'
    · exact absurd (hm'.name_eq_of_owns (hproper n hn) (Or.inl (hbelow'.trans habove))
        (Or.inl hbelow)) hne
    · rcases List.prefix_or_prefix_of_prefix habove hbelow with hover | hinside
      · exact hover
      · exact absurd ((List.prefix_append _ _).trans hinside) (hm'.outside _ hcatalog')
  · rcases howns with hbelow' | hcatalog'
    · exact absurd ((List.prefix_append _ _).trans (hbelow'.trans habove))
        ((hproper n hn).outside _ hcatalog)
    · exact absurd habove (Catalog.Store.not_prefix_places hlocales hm'.isName
        (hproper n hn).isName hne hcatalog' hcatalog)

/-- What belongs to another namespace is not at or below a catalog, if the components are not. -/
theorem Others.not_below_catalog {catalog : String} {loc : Location}
    (hloc : Others s w found n.name loc)
    (hcatalog : w.place catalog ∈ s.store.places w n.name)
    (hcomponents : (w.without catalog).hasDirectory s.componentsRoot = true) :
    ¬ w.place catalog <+: loc := by
  obtain ⟨m, hm, hne, hbelow | hmem⟩ := hloc
  · exact (hproper n hn).not_prefix_of_below hcatalog hcomponents
      ((List.prefix_append _ _).trans hbelow)
  · exact Catalog.Store.not_prefix_places hlocales (hproper n hn).isName (hproper m hm).isName
      hne.symm hcatalog hmem

/-- A run with a catalog that cannot be used, beside the run without it. -/
theorem beside_without (hw : w.WellFormed) (hrooted : w.Rooted)
    (hroot : w.hasDirectory s.componentsRoot = true) {locale : String}
    (hlocale : locale ∈ s.baseLocale :: s.mockLocales)
    (hbad : Catalog.Unusable w (s.store.path n.name locale))
    (hspared : Spared s locale (w.without (s.store.path n.name locale))) :
    Beside s found n.name (Apart s w n.name (s.store.path n.name locale))
      (Others s w found n.name) w (w.without (s.store.path n.name locale)) := by
  obtain ⟨cause, hcause⟩ := Catalog.exists_load_eq_error_iff.mpr hbad
  obtain ⟨node, hnode⟩ := Catalog.node_of_load_eq_error hcause
  have hcatalog := Catalog.Store.place_mem_places (s := s.store) hlocale w n.name
  have hstuck := hproper n hn
  have hcomponents := hspared.components
  have hwithout : ∀ m ∈ found, Proper s (w.without (s.store.path n.name locale)) m :=
    fun m hm => hstuck.without hcatalog hcomponents (hproper m hm)
  have htrails := Workspace.trails_without hw hrooted hspared.rooted
  have hothers : ∀ loc, Others s w found n.name loc →
      ¬ w.place (s.store.path n.name locale) <+: loc :=
    fun loc hloc => hloc.not_below_catalog hproper hn hlocales hcatalog hcomponents
  refine {
    directory := rfl, rooted := hrooted, present := htrails.present, formed := htrails.formed,
    node := fun loc hloc => htrails.node loc hloc.2,
    same := fun loc hloc => htrails.same loc (hothers loc hloc),
    root := ⟨hroot, hcomponents⟩,
    proper := fun m hm => ⟨hproper m hm, hwithout m hm⟩,
    scan := fun m hm => hstuck.sourceFiles_without hcatalog hcomponents (hproper m hm) hroot,
    tracks := fun m hm hne path hpath => ?_,
    counts := fun m hm hne loc hloc => ⟨m, hm, hne, hloc⟩,
    apart := fun loc hloc => ⟨fun happart => happart.1 hloc, ?_⟩,
    above := fun loc hloc place hplace hprefix => ?_,
    steady := fun path hpath => hstuck.steady_without hlocales hlocale hspared hw hroot hnode hpath,
    blocked := Catalog.Store.exists_loadExisting_eq_error_iff.mpr ⟨locale, hlocale, cause, hcause⟩ }
  · rcases List.mem_append.mp hpath with hfile | hpath
    · refine hstuck.tracks_of_mem_scanned hcatalog hcomponents (hproper m hm) hw hroot
        (fun loc hloc => ⟨fun howns => ?_, hothers loc ⟨m, hm, hne, Or.inl hloc⟩⟩) hfile
      exact hne ((hproper m hm).name_eq_of_owns hstuck (Or.inl hloc) howns)
    · exact hstuck.tracks_path hlocales hlocale hspared hnode (hproper m hm) hne hpath
  · rintro ⟨m, hm, hne, howns⟩
    exact hne ((hproper m hm).name_eq_of_owns hstuck howns hloc)
  · obtain ⟨rest, hrest⟩ := hloc.prefix_directory hproper hn hlocales hplace hprefix
    obtain ⟨mode, hdir⟩ := (hwithout n hn).there
    rw [Workspace.place_without, ← hrest] at hdir
    by_cases hnil : rest = []
    · rw [hnil, List.append_nil] at hdir
      exact ⟨mode, hdir⟩
    · exact hspared.rooted.directory_of_get? hnil hdir

end

/-- A namespace that a run leaves as it was, with a report for each of its files. -/
structure LeftAlone (e : Engine) (s : Settings) (before after : Workspace)
    (r : NamespaceReport) : Prop where
  contents : ∀ loc, Owns s before r.name loc →
    after.disk.content? loc = before.disk.content? loc
  written : r.written = []
  keys : r.keys = 0
  paths : r.files.map (·.path) = scanned s before r.name
  failed : ∀ f ∈ r.files, ∀ m, migration? e s r.name before f.path = some m →
    ∃ text, f.status = .failed text

/-- Two runs that agree on all namespaces but one, and on those files of it that cannot be
migrated. -/
structure AgreeElsewhere (e : Engine) (s : Settings) (w : Workspace)
    (found : List Scan.Namespace) (r : NamespaceReport) (done done' : Finished) : Prop where
  others : done'.report.namespaces.filter (·.name ≠ r.name) =
    done.report.namespaces.filter (·.name ≠ r.name)
  contents : ∀ loc, Others s w found r.name loc →
    done'.workspace.disk.content? loc = done.workspace.disk.content? loc
  files : ∃ r' ∈ done'.report.namespaces, r'.name = r.name ∧
    r'.files.map (·.path) = r.files.map (·.path) ∧
    ∀ f ∈ r.files, migration? e s r.name w f.path = none → f ∈ r'.files

section

variable {e : Engine} {s : Settings} {w : Workspace} {found : List Scan.Namespace}

theorem Proper.eq_of_name {n other : Scan.Namespace} (hn : Proper s w n)
    (hother : Proper s w other) (h : n.name = other.name) : n = other := by
  have hdirectory : n.directory = other.directory := by rw [hn.directory, hother.directory, h]
  cases n
  cases other
  simp only at h hdirectory
  rw [h, hdirectory]

/-- Every namespace that is found has its turn. -/
theorem exists_turn_of_mem (hwrite : e.write.MayFail) (happly : s.apply = true)
    (hw : w.WellFormed) (hout : s.CatalogsOutside w)
    (hfound : Scan.namespaces w s.componentsRoot s.only = .ok found) {n : Scan.Namespace}
    (hn : n ∈ found) {done : Finished} (hdone : migrate e s w = .ok done) :
    ∃ r ∈ done.report.namespaces, r.name = n.name ∧
      ∃ current next, Turn e s w done.workspace n current next r := by
  obtain ⟨⟨found', hfound', hnames⟩, hturns, -⟩ := turns_of_migrate hwrite happly hw hout hdone
  obtain rfl := Except.ok.inj (hfound.symm.trans hfound')
  have hmem : n.name ∈ done.report.namespaces.map (·.name) := hnames ▸ List.mem_map_of_mem hn
  obtain ⟨r, hr, hname⟩ := List.mem_map.mp hmem
  obtain ⟨n', current, next, hturn⟩ := hturns r hr
  obtain ⟨hname', -⟩ := hturn.changes hwrite happly hw
  obtain ⟨-, -, -, hproper⟩ := proper_of_namespaces hw hout hfound
  obtain rfl := hturn.proper.eq_of_name (hproper n hn) (hname'.symm.trans hname)
  exact ⟨r, hr, hname, current, next, hturn⟩

theorem Turn.leftAlone {last current next : Workspace} {n : Scan.Namespace} {r : NamespaceReport}
    (h : Turn e s w last n current next r) (hw : w.WellFormed) (hrooted : w.Rooted)
    (hbad : ∃ cause, s.store.loadExisting w n.name = .error cause) :
    LeftAlone e s w last r := by
  obtain ⟨cause, rfl, hname, hwritten, hkeys, hfiles⟩ := h.blocked hw hrooted hbad
  refine ⟨fun loc hloc => h.content?_eq hw (hname ▸ hloc), hwritten, hkeys, ?_, ?_⟩
  · rw [hfiles, hname, map_path_heldBack]
  · rw [hfiles, hname]
    intro f hf m hm
    obtain ⟨path, -, rfl⟩ := List.mem_map.mp hf
    rw [path_heldBack] at hm
    exact exists_status_heldBack hm cause

theorem exists_of_migrate (hfound : Scan.namespaces w s.componentsRoot s.only = .ok found)
    {done : Finished} (h : migrate e s w = .ok done) :
    ∃ warnings, migrateNamespaces e s (.ofEntries s.componentsRoot s.ignores) found w =
      (done.workspace, done.report.namespaces, warnings) := by
  rcases hrun : migrateNamespaces e s (.ofEntries s.componentsRoot s.ignores) found w with
    ⟨last, reports, warnings⟩
  simp only [migrate, hfound, hrun] at h
  cases h
  exact ⟨warnings, rfl⟩

section

variable {n : Scan.Namespace} {locale : String}
  (hwrite : e.write = Workspace.replace) (happly : s.apply = true) (hw : w.WellFormed)
  (hrooted : w.Rooted) (hout : s.CatalogsOutside w)
  (hlocales : ∀ locale ∈ s.baseLocale :: s.mockLocales, Path.IsName locale)
  (hfound : Scan.namespaces w s.componentsRoot s.only = .ok found) (hn : n ∈ found)
  (hlocale : locale ∈ s.baseLocale :: s.mockLocales)
  (hbad : Catalog.Unusable w (s.store.path n.name locale))
include hwrite happly hw hrooted hout hlocales hfound hn hlocale hbad

/-- The run without the catalog, if it can reach what it needs. -/
theorem exists_agreeElsewhere
    (hspared : Spared s locale (w.without (s.store.path n.name locale))) {done : Finished}
    (hdone : migrate e s w = .ok done) {r : NamespaceReport} (hname : r.name = n.name)
    {cause : Catalog.LoadError}
    (hfiles : r.files = (scanned s w n.name).map fun path =>
      heldBack s n.name cause path (outcome e s n.name w path)) :
    ∃ done', migrate e s (w.without (s.store.path n.name locale)) = .ok done' ∧
      AgreeElsewhere e s w found r done done' := by
  obtain ⟨hlocate, hdir, hnodup, hproper⟩ := proper_of_namespaces hw hout hfound
  have hroot := Workspace.hasDirectory_eq_true_iff.mpr ⟨hlocate, hdir⟩
  have hbeside := beside_without hproper hn hlocales hw hrooted hroot hlocale hbad hspared
  have hcatalog := Catalog.Store.place_mem_places (s := s.store) hlocale w n.name
  have hstuck := hproper n hn
  have hsame := hstuck.namespaces_without hcatalog hspared.components hroot s.only
  have hfound' := hsame.trans hfound
  have hout' : s.CatalogsOutside (w.without (s.store.path n.name locale)) :=
    fun found' hnamespaces => hout found' (hsame.symm.trans hnamespaces)
  have hscanned : scanned s (w.without (s.store.path n.name locale)) n.name =
      scanned s w n.name := by
    rw [← hstuck.files_sourceFiles, ← (hbeside.proper n hn).2.files_sourceFiles, hbeside.scan n hn]
  obtain ⟨done', hdone'⟩ := exists_migrate_eq_ok (e := e) hfound'
  obtain ⟨warnings, hrun⟩ := exists_of_migrate hfound hdone
  obtain ⟨warnings', hrun'⟩ := exists_of_migrate hfound' hdone'
  obtain ⟨hlast, hreports⟩ := hbeside.migrateNamespaces hwrite happly (fun _ hm => hm) hnodup
    hbeside.toTrails (.start s hw found) (.start s (hw.without _) found) hrun hrun'
  have hmayFail : e.write.MayFail := hwrite ▸ Writer.mayFail_replace
  obtain ⟨r', hr', hname', current, next, hturn⟩ :=
    exists_turn_of_mem hmayFail happly (hw.without _) hout' hfound' hn hdone'
  obtain ⟨-, -, hsettled⟩ := hturn.changes hmayFail happly (hw.without _)
  refine ⟨done', hdone', hname ▸ hreports, fun loc hloc => ?_, r', hr', hname'.trans hname.symm,
    ?_, ?_⟩
  · rw [Disk.content?_eq_join, Disk.content?_eq_join, hlast.same loc (hname ▸ hloc)]
  · rw [hsettled.paths, hscanned, hfiles, map_path_heldBack]
  · rw [hfiles, hname]
    intro f hf hnone
    obtain ⟨path, hpath, rfl⟩ := List.mem_map.mp hf
    rw [path_heldBack] at hnone
    have houtcome := hstuck.outcome_without (e := e) hcatalog hspared.components hstuck hw hrooted
      hspared.rooted hroot hpath
    have hneed := needsCatalog_of_migration?_eq_none hnone
    rw [← houtcome] at hneed ⊢
    exact hturn.heldBack_mem (hw.without _) hspared.rooted (hscanned ▸ hpath) hneed cause

end

/-- A catalog that cannot be used blocks its namespace and nothing else. The run ends, and leaves
the namespace alone. It agrees with the run without that catalog on all other namespaces, and on
the files that could not be migrated anyway. If the catalog is a directory, the other run must still
be able to reach what it needs. -/
theorem unusable_catalog_blocks_alone (hwrite : e.write = Workspace.replace)
    (happly : s.apply = true) (hw : w.WellFormed) (hrooted : w.Rooted)
    (hout : s.CatalogsOutside w)
    (hlocales : ∀ locale ∈ s.baseLocale :: s.mockLocales, Path.IsName locale)
    (hfound : Scan.namespaces w s.componentsRoot s.only = .ok found) {n : Scan.Namespace}
    (hn : n ∈ found) {locale : String} (hlocale : locale ∈ s.baseLocale :: s.mockLocales)
    (hbad : Catalog.Unusable w (s.store.path n.name locale)) :
    ∃ done r, migrate e s w = .ok done ∧ r ∈ done.report.namespaces ∧ r.name = n.name ∧
      LeftAlone e s w done.workspace r ∧
      ((w.hasDirectory (s.store.path n.name locale) = true →
          Spared s locale (w.without (s.store.path n.name locale))) →
        ∃ done', migrate e s (w.without (s.store.path n.name locale)) = .ok done' ∧
          AgreeElsewhere e s w found r done done') := by
  have hmayFail : e.write.MayFail := hwrite ▸ Writer.mayFail_replace
  obtain ⟨hlocate, hdir, -, hproper⟩ := proper_of_namespaces hw hout hfound
  have hroot := Workspace.hasDirectory_eq_true_iff.mpr ⟨hlocate, hdir⟩
  obtain ⟨cause, hcause⟩ := Catalog.exists_load_eq_error_iff.mpr hbad
  have hblocked := Catalog.Store.exists_loadExisting_eq_error_iff.mpr
    ⟨locale, hlocale, cause, hcause⟩
  obtain ⟨done, hdone⟩ := exists_migrate_eq_ok (e := e) hfound
  obtain ⟨r, hr, hname, current, next, hturn⟩ :=
    exists_turn_of_mem hmayFail happly hw hout hfound hn hdone
  refine ⟨done, r, hdone, hr, hname, hturn.leftAlone hw hrooted hblocked, fun hdirectory => ?_⟩
  obtain ⟨cause', -, -, -, -, hfiles⟩ := hturn.blocked hw hrooted hblocked
  refine exists_agreeElsewhere hwrite happly hw hrooted hout hlocales hfound hn hlocale hbad ?_
    hdone hname hfiles
  obtain ⟨node, hnode⟩ := Catalog.node_of_load_eq_error hcause
  cases node with
  | file content mode =>
      exact (hproper n hn).spared_of_file (hlocales _ hlocale) hrooted hroot hnode
  | directory mode => exact hdirectory (by simp [Workspace.hasDirectory, hnode, Node.isDirectory])

end

/-- Two namespaces with the same file. The catalog of the first holds a list, and that of the second
is a directory. -/
def shelfProject : Workspace where
  disk := ⟨[(["src"], .directory 0o755), (["src", "components"], .directory 0o755),
    (["src", "components", "Common"], .directory 0o755),
    (["src", "components", "Common", "Note.jsx"], .file (.text note) 0o644),
    (["src", "components", "Shop"], .directory 0o755),
    (["src", "components", "Shop", "Note.jsx"], .file (.text note) 0o644),
    (["locales"], .directory 0o755), (["locales", "en"], .directory 0o755),
    (["locales", "en", "Common.json"], .file (.text "[]\n") 0o644),
    (["locales", "en", "Shop.json"], .directory 0o755)]⟩
  directory := []

/-- The project without the directory. -/
def bareProject (root : String) : Workspace :=
  shelfProject.without ((noteSettings root).store.path "Shop" "en")

structure ShelfFacts (root : String) : Prop where
  listed : ∀ w ∈ [shelfProject, bareProject root], (w.list "./src/components").toOption =
    some [("Common", .directory 0o755), ("Shop", .directory 0o755)]
  outside : ∀ n ∈ ["Common", "Shop"], ∀ path ∈ (noteSettings root).store.paths n,
    ¬ shelfProject.place "./src/components" <+: shelfProject.place path
  unusable : ∀ n ∈ ["Common", "Shop"],
    (Catalog.load shelfProject ((noteSettings root).store.path n "en")).toOption.isNone = true
  found : ∀ w ∈ [shelfProject, bareProject root],
    (Scan.regularFiles w (Path.join "./src/components" "Common")).toOption =
      some [notePath "Common"]
  source : ∀ w ∈ [shelfProject, bareProject root],
    (w.readText (notePath "Common")).toOption = some note

theorem shelfFacts : ∀ root ∈ ["locales", "locales/en/Shop.json/../.."], ShelfFacts root := by
  intro root hroot
  refine (fun ⟨a, b, c, d, e⟩ => ⟨a, b, c, d, e⟩ : _ ∧ _ ∧ _ ∧ _ ∧ _ → _) ?_
  revert root
  decide +kernel

theorem wellFormed_shelfProject : shelfProject.WellFormed where
  disk := ⟨by decide, by decide⟩
  directory := by
    intro name hname
    cases hname

theorem rooted_shelfProject : shelfProject.Rooted :=
  Workspace.rooted_of_nodes (by decide) (by decide)

section

variable {root : String} (h : ShelfFacts root)
include h

theorem namespaces_shelfProject {w : Workspace} (hw : w ∈ [shelfProject, bareProject root]) :
    Scan.namespaces w "./src/components" [] =
      .ok [⟨"Common", Path.join "./src/components" "Common"⟩,
        ⟨"Shop", Path.join "./src/components" "Shop"⟩] :=
  Scan.namespaces_of_list ["Common", "Shop"] (eq_ok_of_toOption (h.listed w hw)) (by decide)

theorem catalogsOutside_shelfProject : (noteSettings root).CatalogsOutside shelfProject := by
  refine Settings.catalogsOutside_of_namespaces (namespaces_shelfProject h List.mem_cons_self)
    fun n hn path hpath => ?_
  rcases List.mem_cons.mp hn with rfl | hn
  · exact h.outside "Common" (by simp) path hpath
  · obtain rfl := List.mem_singleton.mp hn
    exact h.outside "Shop" (by simp) path hpath

theorem unusable_shelfProject {n : String} (hn : n ∈ ["Common", "Shop"]) :
    Catalog.Unusable shelfProject ((noteSettings root).store.path n "en") :=
  Catalog.exists_load_eq_error_iff.mp (exists_error_of_toOption (h.unusable n hn))

end

/-- A way to the catalogs that does not lead through the directory: the run without the directory
does the same in the first namespace. -/
theorem shelfProject_shop_alone :
    ∃ done r done', migrate {} (noteSettings "locales") shelfProject = .ok done ∧
      r ∈ done.report.namespaces ∧ r.name = "Shop" ∧
      LeftAlone {} (noteSettings "locales") shelfProject done.workspace r ∧
      migrate {} (noteSettings "locales") (bareProject "locales") = .ok done' ∧
      AgreeElsewhere {} (noteSettings "locales") shelfProject
        [⟨"Common", Path.join "./src/components" "Common"⟩,
          ⟨"Shop", Path.join "./src/components" "Shop"⟩] r done done' := by
  have hfacts := shelfFacts "locales" (by simp)
  have hspared : Spared (noteSettings "locales") "en" (bareProject "locales") :=
    ⟨Workspace.rooted_of_nodes (by decide +kernel) (by decide +kernel), by decide +kernel,
      by decide +kernel⟩
  obtain ⟨done, r, hdone, hr, hname, halone, hagree⟩ := unusable_catalog_blocks_alone (e := {})
    (s := noteSettings "locales") (w := shelfProject) rfl rfl wellFormed_shelfProject
    rooted_shelfProject (catalogsOutside_shelfProject hfacts) (by decide)
    (namespaces_shelfProject hfacts List.mem_cons_self)
    (List.mem_cons_of_mem _ (List.mem_singleton_self _)) List.mem_cons_self
    (unusable_shelfProject hfacts (by simp))
  obtain ⟨done', hdone', hagree⟩ := hagree fun _ => hspared
  exact ⟨done, r, done', hdone, hr, hname, halone, hdone', hagree⟩

section

variable (read : String → String → Option Script.Module)
  (hread : ∀ n ∈ ["Common", "Shop"], read (notePath n) note = some noteModule ∧
    (read (notePath n) migratedNote).isSome = true)
include hread

/-- The first namespace of the project, as a run from either workspace reports it. -/
theorem migrate_shelfProject {root : String} (h : ShelfFacts root) {w : Workspace}
    (hw : w ∈ [shelfProject, bareProject root]) :
    ∃ done r reports, migrate (.reading read Mock.shuffled Workspace.replace) (noteSettings root)
        w = .ok done ∧ done.report.namespaces = r :: reports ∧ r.name = "Common" ∧
      ((∃ cause, (noteSettings root).store.loadExisting w "Common" = .error cause) →
        ∃ text, r.files.map (·.status) = [.failed text]) ∧
      ((∃ existing, (noteSettings root).store.loadExisting w "Common" = .ok existing) →
        (Workspace.replace w (notePath "Common") (.text migratedNote)).2 = none →
        r.files.map (·.status) = [.translated 1]) := by
  have hfound := sourceFiles_note (noteFacts "src/../locales" (by simp)) (s := noteSettings root)
    rfl (by simp) (h.found w hw)
  obtain ⟨m, hm, hcode, hentries⟩ := outcome_note (s := noteSettings root) read hread rfl (by simp)
    (h.source w hw)
  obtain ⟨done, reports, hdone, hreports⟩ := migrate_cons
    (e := .reading read Mock.shuffled Workspace.replace) (s := noteSettings root)
    (namespaces_shelfProject h hw) hfound
  refine ⟨done, _, reports, hdone, hreports, name_migrateFiles .., ?_, ?_⟩
  · rintro ⟨cause, hcause⟩
    obtain ⟨r, hturn, -, hstatus⟩ := migrateFiles_single_blocked hm hcause
    rw [hturn]
    exact ⟨_, hstatus⟩
  · rintro ⟨existing, hexisting⟩ hwritten
    have hplaced : place (.reading read Mock.shuffled Workspace.replace) (noteSettings root)
        "Common" none w (notePath "Common") m.code =
          ((Workspace.replace w (notePath "Common") (.text migratedNote)).1, none) := by
      rw [hcode]
      simp only [place, noteSettings, if_true, Engine.reading, hwritten, Option.map_none]
    have hstatus := status_migrateFiles_single hm hexisting hplaced
    rw [hentries] at hstatus
    exact hstatus

end

/-- A way to the catalogs that leads through the directory and up again. Without the directory, the
catalog of the first namespace is not seen, and the namespace is not blocked any more. -/
theorem shelfProject_common_differs :
    shelfProject.WellFormed ∧ shelfProject.Rooted ∧
      (noteSettings "locales/en/Shop.json/../..").CatalogsOutside shelfProject ∧
      (∀ locale ∈ ["en", "de"], Path.IsName locale) ∧
      Catalog.Unusable shelfProject
        ((noteSettings "locales/en/Shop.json/../..").store.path "Shop" "en") ∧
      ∃ done done', migrate {} (noteSettings "locales/en/Shop.json/../..") shelfProject =
          .ok done ∧
        migrate {} (noteSettings "locales/en/Shop.json/../..")
          (bareProject "locales/en/Shop.json/../..") = .ok done' ∧
        done'.report.namespaces.filter (·.name ≠ "Shop") ≠
          done.report.namespaces.filter (·.name ≠ "Shop") := by
  have hfacts := shelfFacts "locales/en/Shop.json/../.." (by simp)
  have hmissing : ∀ path ∈ (noteSettings "locales/en/Shop.json/../..").store.paths "Common",
      (bareProject "locales/en/Shop.json/../..").has path = false := by
    decide +kernel
  have hwritten : (Workspace.replace (bareProject "locales/en/Shop.json/../..")
      (notePath "Common") (.text migratedNote)).2 = none := by
    decide +kernel
  obtain ⟨done, r, reports, hdone, hreports, hname, hfailed, -⟩ := migrate_shelfProject
    (fun path => Script.parse (.ofPath path)) parse_note hfacts List.mem_cons_self
  obtain ⟨done', r', reports', hdone', hreports', hname', -, htranslated⟩ := migrate_shelfProject
    (fun path => Script.parse (.ofPath path)) parse_note hfacts
    (List.mem_cons_of_mem _ (List.mem_singleton_self _))
  obtain ⟨text, hstatus⟩ := hfailed (Catalog.Store.exists_loadExisting_eq_error_iff.mpr
    ⟨"en", List.mem_cons_self, exists_error_of_toOption (hfacts.unusable "Common" (by simp))⟩)
  have hstatus' := htranslated ⟨_, Catalog.Store.loadExisting_of_missing hmissing⟩ hwritten
  refine ⟨wellFormed_shelfProject, rooted_shelfProject, catalogsOutside_shelfProject hfacts,
    by decide, unusable_shelfProject hfacts (by simp), done, done', hdone, hdone', ?_⟩
  rw [hreports, hreports', List.filter_cons_of_pos (by simp [hname']),
    List.filter_cons_of_pos (by simp [hname])]
  intro heq
  rw [(List.cons.inj heq).1, hstatus] at hstatus'
  cases hstatus'

end Run

end Phrasebook
