import Phrasebook.Proofs.Run.Namespaces
import Phrasebook.Proofs.Scan.Found

/-!
What a run does to a project: turn after turn, one for each namespace.

No place belongs to two namespaces, as long as no catalog lies below the directory of components.
So each turn finds its namespace as the run found it, and leaves it as the run leaves it.
-/

namespace Phrasebook

open Disk (Location)

/-- No catalog of a namespace of the project lies below the directory of components. -/
def Settings.CatalogsOutside (s : Settings) (w : Workspace) : Prop :=
  ∀ found, Scan.namespaces w s.componentsRoot s.only = .ok found →
    ∀ n ∈ found, ∀ path ∈ s.store.paths n.name, ¬ w.place s.componentsRoot <+: w.place path

theorem Settings.catalogsOutside_of_namespaces {s : Settings} {w : Workspace}
    {found : List Scan.Namespace}
    (hfound : Scan.namespaces w s.componentsRoot s.only = .ok found)
    (h : ∀ n ∈ found, ∀ path ∈ s.store.paths n.name,
      ¬ w.place s.componentsRoot <+: w.place path) : s.CatalogsOutside w := by
  intro found' hfound'
  obtain rfl := Except.ok.inj (hfound.symm.trans hfound')
  exact h

namespace Run

def scanned (s : Settings) (w : Workspace) (namespaceName : String) : List String :=
  (Scan.sourceFiles w s.extensions (.ofEntries s.componentsRoot s.ignores)
    (Path.join s.componentsRoot namespaceName)).files

/-- What a namespace is taken through when its turn comes. -/
def takeTurn (e : Engine) (s : Settings) (n : Scan.Namespace) (w : Workspace) :
    Workspace × NamespaceReport :=
  migrateFiles e s n.name (Scan.sourceFiles w s.extensions
    (.ofEntries s.componentsRoot s.ignores) n.directory) w

/-- The turns of a run: each namespace with the workspace that it finds. -/
def turnsFrom (e : Engine) (s : Settings) :
    List Scan.Namespace → Workspace → List (Scan.Namespace × Workspace)
  | [], _ => []
  | n :: rest, w => (n, w) :: turnsFrom e s rest (takeTurn e s n w).1

theorem reports_migrateNamespaces {e : Engine} {s : Settings} {namespaces : List Scan.Namespace}
    {w last : Workspace} {reports : List NamespaceReport} {warnings : List Scan.Warning}
    (h : migrateNamespaces e s (.ofEntries s.componentsRoot s.ignores) namespaces w =
      (last, reports, warnings)) :
    reports = (turnsFrom e s namespaces w).map fun t => (takeTurn e s t.1 t.2).2 := by
  induction namespaces generalizing w reports warnings with
  | nil =>
      cases h
      rfl
  | cons n rest ih =>
      simp only [migrateNamespaces] at h
      cases h
      rw [turnsFrom, List.map_cons, ← ih (w := (takeTurn e s n w).1) rfl]
      rfl

/-- A place belongs to a namespace if it lies in its directory or is that of a catalog. -/
def Owns (s : Settings) (w : Workspace) (namespaceName : String) (loc : Location) : Prop :=
  w.place s.componentsRoot ++ [namespaceName] <+: loc ∨ loc ∈ s.store.places w namespaceName

/-- The places that the turn of a namespace can write. -/
def touched (s : Settings) (w : Workspace) (r : NamespaceReport) : List Location :=
  r.files.map (fun f => w.place f.path) ++ s.store.places w r.name

/-- A namespace as a scan finds it, with its catalogs outside of the directory of components. -/
structure Proper (s : Settings) (w : Workspace) (n : Scan.Namespace) : Prop where
  directory : n.directory = Path.join s.componentsRoot n.name
  isName : Path.IsName n.name
  there : ∃ mode, w.disk.get? (w.place s.componentsRoot ++ [n.name]) = some (.directory mode)
  outside : ∀ loc ∈ s.store.places w n.name, ¬ w.place s.componentsRoot <+: loc

section

variable {s : Settings} {w : Workspace} {n other : Scan.Namespace} {loc : Location}

theorem Proper.name_eq_of_owns (hn : Proper s w n) (hother : Proper s w other)
    (h : Owns s w n.name loc) (h' : Owns s w other.name loc) : n.name = other.name := by
  rcases h with hbelow | hcatalog <;> rcases h' with hbelow' | hcatalog'
  · obtain ⟨rest, rfl⟩ := hbelow
    obtain ⟨rest', hrest'⟩ := hbelow'
    simp only [List.append_assoc, List.append_cancel_left_eq, List.singleton_append,
      List.cons.injEq] at hrest'
    exact hrest'.1.symm
  · exact absurd ((List.prefix_append _ _).trans hbelow) (hother.outside loc hcatalog')
  · exact absurd ((List.prefix_append _ _).trans hbelow') (hn.outside loc hcatalog)
  · by_cases hne : n.name = other.name
    · exact hne
    · exact absurd hcatalog' (Catalog.Store.not_mem_places hn.isName hother.isName hne hcatalog)

theorem Proper.place_directory (hn : Proper s w n) :
    w.place n.directory = w.place s.componentsRoot ++ [n.name] := by
  rw [hn.directory, w.place_join s.componentsRoot hn.isName]

theorem Proper.prefix_of_mem_scanned (hw : w.WellFormed) (hn : Proper s w n) {path : String}
    (h : path ∈ scanned s w n.name) :
    w.place s.componentsRoot ++ [n.name] <+: w.place path := by
  rw [← hn.place_directory, hn.directory]
  exact (Scan.places_of_sourceFiles hw _ _ _).2 path h

theorem Proper.owns_of_mem (hw : w.WellFormed) (hn : Proper s w n)
    (h : loc ∈ (scanned s w n.name).map w.place ++ s.store.places w n.name) :
    Owns s w n.name loc := by
  rcases List.mem_append.mp h with hfile | hcatalog
  · obtain ⟨path, hpath, rfl⟩ := List.mem_map.mp hfile
    exact Or.inl (hn.prefix_of_mem_scanned hw hpath)
  · exact Or.inr hcatalog

/-- What was written so far and in the turn of a namespace does not belong to the next ones. -/
theorem Proper.not_owns_append (hn : Proper s w n) {rest : List Scan.Namespace}
    (hrest : ∀ n' ∈ rest, Proper s w n') (hnew : n.name ∉ rest.map (·.name))
    {written more : List Location} (hfree : ∀ n' ∈ rest, ∀ loc ∈ written, ¬ Owns s w n'.name loc)
    (howned : ∀ loc ∈ more, Owns s w n.name loc) :
    ∀ n' ∈ rest, ∀ loc ∈ written ++ more, ¬ Owns s w n'.name loc := by
  intro n' hn' loc hloc howns
  rcases List.mem_append.mp hloc with hloc | hloc
  · exact hfree n' hn' loc hloc howns
  · refine hnew ?_
    rw [hn.name_eq_of_owns (hrest n' hn') (howned loc hloc) howns]
    exact List.mem_map_of_mem hn'

theorem touched_eq {r : NamespaceReport} (hname : r.name = n.name)
    (hpaths : r.files.map (·.path) = scanned s w n.name) :
    touched s w r = (scanned s w n.name).map w.place ++ s.store.places w n.name := by
  rw [touched, hname, ← hpaths, List.map_map]
  rfl

theorem Proper.exists_of_mem_scanned (hw : w.WellFormed) (hn : Proper s w n) {path : String}
    (h : path ∈ scanned s w n.name) :
    w.Steady path ∧ ∃ content, w.contentAt path = some content := by
  obtain ⟨mode, hthere⟩ := hn.there
  rw [← hn.place_directory, hn.directory] at hthere
  exact Scan.exists_of_mem_sourceFiles hw hthere h

/-- A source file that holds what it held reads as before. -/
theorem Proper.readText_eq (hw : w.WellFormed) (hrooted : w.Rooted) (hn : Proper s w n)
    {w' : Workspace} {written : List Location} (hchanges : w.Changes written w') {path : String}
    (hpath : path ∈ scanned s w n.name) (hsame : w'.contentAt path = w.contentAt path) :
    w'.readText path = w.readText path := by
  obtain ⟨hsteady, content, hcontent⟩ := hn.exists_of_mem_scanned hw hpath
  exact hchanges.readText_eq hrooted hsteady hcontent hsame

/-- What is written elsewhere does not change the files and catalogs of a namespace. -/
theorem Proper.sameAt_of_changes (hw : w.WellFormed) (hn : Proper s w n)
    {before after : Workspace} {written : List Location} (hbefore : before.WellFormed)
    (hdirectory : before.directory = w.directory) (hchanges : before.Changes written after)
    (hfree : ∀ loc ∈ written, ¬ Owns s w n.name loc) :
    SameAt (scanned s w n.name) before after ∧ SameAt (s.store.paths n.name) before after := by
  constructor <;> refine Run.sameAt_of_changes hchanges hbefore fun path hpath hmem => ?_ <;>
    rw [Workspace.place_eq_of_directory hdirectory] at hmem
  · exact hfree _ hmem (Or.inl (hn.prefix_of_mem_scanned hw hpath))
  · exact hfree _ hmem (Or.inr (List.mem_map_of_mem hpath))

/-- A namespace whose places were not written is scanned as at first. -/
theorem Proper.sourceFiles_eq {w' : Workspace} {written : List Location} {mode : Nat}
    (hn : Proper s w n) (hroot : w.locate s.componentsRoot = .ok (w.place s.componentsRoot))
    (hdir : w.disk.get? (w.place s.componentsRoot) = some (.directory mode))
    (hchanges : w.Changes written w') (hfree : ∀ loc ∈ written, ¬ Owns s w n.name loc) :
    Scan.sourceFiles w' s.extensions (.ofEntries s.componentsRoot s.ignores) n.directory =
      Scan.sourceFiles w s.extensions (.ofEntries s.componentsRoot s.ignores) n.directory := by
  obtain ⟨mode', hthere⟩ := hn.there
  have hlocate : w'.locate n.directory = w.locate n.directory := by
    rw [hn.directory]
    exact hchanges.locate_join hn.isName hroot hdir hthere
  apply Scan.sourceFiles_eq_of_changes hchanges hlocate
  · intro loc hloc
    rw [Workspace.eq_place_of_locate hloc, hn.place_directory]
    exact ⟨mode', hthere⟩
  · intro loc hloc hbelow
    rw [hn.place_directory] at hbelow
    exact hfree loc hloc (Or.inl hbelow)

theorem Proper.files_sourceFiles (hn : Proper s w n) :
    (Scan.sourceFiles w s.extensions (.ofEntries s.componentsRoot s.ignores) n.directory).files =
      scanned s w n.name := by
  rw [hn.directory, scanned]

end

section

variable {e : Engine} {s : Settings} {w : Workspace}

theorem Proper.turn {n : Scan.Namespace} (hn : Proper s w n) (hwrite : e.write.MayFail)
    (happly : s.apply = true) (hw : w.WellFormed) {current next : Workspace}
    {written : List Location} (hchanges : w.Changes written current)
    (hfree : ∀ loc ∈ written, ¬ Owns s w n.name loc) {found : Scan.Found}
    (hfound : found.files = scanned s w n.name)
    (hnodup : (found.files.map current.place).Nodup) {r : NamespaceReport}
    (h : migrateFiles e s n.name found current = (next, r)) :
    r.name = n.name ∧ current.Changes (touched s w r) next ∧
      NamespaceSettled e s (scanned s w n.name) w next r := by
  have hplace : current.place = w.place :=
    funext (Workspace.place_eq_of_directory hchanges.directory)
  have hplaces := Catalog.Store.places_eq_of_directory hchanges.directory s.store n.name
  have hout : ∀ path ∈ found.files, current.place path ∉ s.store.places current n.name := by
    intro path hpath hmem
    rw [hplaces, hplace] at hmem
    have hbelow := hn.prefix_of_mem_scanned hw (hfound ▸ hpath)
    exact hn.outside _ hmem ((List.prefix_append _ _).trans hbelow)
  obtain ⟨hname, hturn, hsettled⟩ :=
    migrateFiles_settled hwrite happly (hchanges.wellFormed hw) hnodup hout h
  refine ⟨hname, ?_, ?_⟩
  · rw [touched_eq hname (hfound ▸ hsettled.paths), ← hfound, ← hplaces, ← hplace]
    exact hturn
  · rw [hfound] at hsettled
    obtain ⟨hfiles, hcatalogs⟩ := hn.sameAt_of_changes hw hw rfl hchanges hfree
    exact hsettled.congr_before hfiles (hname ▸ hcatalogs)

/-- The turn of a namespace in a run from `w` to `last`. What is written before it and after it does
not belong to the namespace. -/
structure Turn (e : Engine) (s : Settings) (w last : Workspace) (n : Scan.Namespace)
    (current next : Workspace) (r : NamespaceReport) : Prop where
  proper : Proper s w n
  before : ∃ written, w.Changes written current ∧ ∀ loc ∈ written, ¬ Owns s w n.name loc
  found : (Scan.sourceFiles current s.extensions (.ofEntries s.componentsRoot s.ignores)
    n.directory).files = scanned s w n.name
  turn : migrateFiles e s n.name (Scan.sourceFiles current s.extensions
    (.ofEntries s.componentsRoot s.ignores) n.directory) current = (next, r)
  after : ∃ written, next.Changes written last ∧ ∀ loc ∈ written, ¬ Owns s w n.name loc

theorem Turn.changes {last current next : Workspace} {n : Scan.Namespace} {r : NamespaceReport}
    (h : Turn e s w last n current next r) (hwrite : e.write.MayFail) (happly : s.apply = true)
    (hw : w.WellFormed) :
    r.name = n.name ∧ current.Changes (touched s w r) next ∧
      NamespaceSettled e s (scanned s w n.name) w next r := by
  obtain ⟨written, hchanges, hfree⟩ := h.before
  have hplaces := (Scan.places_of_sourceFiles (hchanges.wellFormed hw) s.extensions
    (.ofEntries s.componentsRoot s.ignores) n.directory).1
  exact h.proper.turn hwrite happly hw hchanges hfree h.found hplaces h.turn

/-- A file of a namespace reads in its turn as at the start of the run. -/
theorem Turn.readText_eq {last current next : Workspace} {n : Scan.Namespace}
    {r : NamespaceReport} (h : Turn e s w last n current next r) (hw : w.WellFormed)
    (hrooted : w.Rooted) {path : String} (hpath : path ∈ scanned s w n.name) :
    current.readText path = w.readText path := by
  obtain ⟨written, hchanges, hfree⟩ := h.before
  obtain ⟨hsame, -⟩ := h.proper.sameAt_of_changes hw hw rfl hchanges hfree
  exact h.proper.readText_eq hw hrooted hchanges hpath (hsame path hpath)

/-- What a turn settles is settled at the end of the run. -/
theorem Turn.settled {last current next : Workspace} {n : Scan.Namespace} {r : NamespaceReport}
    (h : Turn e s w last n current next r) (hwrite : e.write.MayFail) (happly : s.apply = true)
    (hw : w.WellFormed) : NamespaceSettled e s (scanned s w r.name) w last r := by
  obtain ⟨hname, hchanged, hsettled⟩ := h.changes hwrite happly hw
  obtain ⟨written, hchanges, -⟩ := h.before
  obtain ⟨written', hchanges', hfree'⟩ := h.after
  have hcurrent := hchanges.wellFormed hw
  obtain ⟨hfiles, hcatalogs⟩ := h.proper.sameAt_of_changes hw (hchanged.wellFormed hcurrent)
    (hchanged.directory.trans hchanges.directory) hchanges' hfree'
  rw [hname]
  exact hsettled.congr_after hfiles (hname ▸ hcatalogs)

/-- A turn touches nothing that belongs to another namespace. -/
theorem Turn.not_owns_touched {last current next : Workspace} {n m : Scan.Namespace}
    {r : NamespaceReport} (h : Turn e s w last m current next r) (hwrite : e.write.MayFail)
    (happly : s.apply = true) (hw : w.WellFormed) (hn : Proper s w n) (hne : r.name ≠ n.name) :
    ∀ loc ∈ touched s w r, ¬ Owns s w n.name loc := by
  intro loc hloc howns
  obtain ⟨hname, -, hsettled⟩ := h.changes hwrite happly hw
  rw [touched_eq hname hsettled.paths] at hloc
  exact hne (hname.trans (h.proper.name_eq_of_owns hn (h.proper.owns_of_mem hw hloc) howns))

/-- All turns of a run. What was written before belongs to no namespace that is still to come. -/
theorem turn_of_mem_turnsFrom (hwrite : e.write.MayFail) (happly : s.apply = true)
    (hw : w.WellFormed) {mode : Nat}
    (hroot : w.locate s.componentsRoot = .ok (w.place s.componentsRoot))
    (hdir : w.disk.get? (w.place s.componentsRoot) = some (.directory mode))
    {namespaces : List Scan.Namespace} (hproper : ∀ n ∈ namespaces, Proper s w n)
    (hnodup : (namespaces.map (·.name)).Nodup) {current : Workspace} {written : List Location}
    (hchanges : w.Changes written current)
    (hfree : ∀ n ∈ namespaces, ∀ loc ∈ written, ¬ Owns s w n.name loc)
    {last : Workspace} {reports : List NamespaceReport} {warnings : List Scan.Warning}
    (h : migrateNamespaces e s (.ofEntries s.componentsRoot s.ignores) namespaces current =
      (last, reports, warnings)) :
    reports.map (·.name) = namespaces.map (·.name) ∧
      (∀ t ∈ turnsFrom e s namespaces current,
        Turn e s w last t.1 t.2 (takeTurn e s t.1 t.2).1 (takeTurn e s t.1 t.2).2) ∧
      current.Changes (reports.flatMap (touched s w)) last := by
  induction namespaces generalizing current written reports warnings with
  | nil =>
      rw [migrateNamespaces] at h
      cases h
      exact ⟨rfl, by simp [turnsFrom], .refl (hchanges.wellFormed hw)⟩
  | cons n rest ih =>
      have hn : Proper s w n := hproper n (List.mem_cons_self ..)
      obtain ⟨hnew, hnodup'⟩ := List.nodup_cons.mp hnodup
      have hfree' := hfree n (List.mem_cons_self ..)
      have hfound : (Scan.sourceFiles current s.extensions (.ofEntries s.componentsRoot s.ignores)
          n.directory).files = scanned s w n.name := by
        rw [hn.sourceFiles_eq hroot hdir hchanges hfree', hn.files_sourceFiles]
      have hplaces := (Scan.places_of_sourceFiles (hchanges.wellFormed hw) s.extensions
        (.ofEntries s.componentsRoot s.ignores) n.directory).1
      rw [migrateNamespaces] at h
      simp only at h
      rcases hturn : migrateFiles e s n.name (Scan.sourceFiles current s.extensions
        (.ofEntries s.componentsRoot s.ignores) n.directory) current with ⟨next, r⟩
      rcases hrest : migrateNamespaces e s (.ofEntries s.componentsRoot s.ignores) rest next with
        ⟨last', reports', warnings'⟩
      simp only [hturn, hrest] at h
      cases h
      obtain ⟨hname, hchanged, hsettled⟩ :=
        hn.turn hwrite happly hw hchanges hfree' hfound hplaces hturn
      have howned : ∀ loc ∈ touched s w r, Owns s w n.name loc := fun loc hloc =>
        hn.owns_of_mem hw (touched_eq hname hsettled.paths ▸ hloc)
      have hsofar : w.Changes (written ++ touched s w r) next :=
        (hchanges.mono (by simp)).trans (hchanged.mono (by simp))
      have hproper' : ∀ n' ∈ rest, Proper s w n' := fun n' hn' =>
        hproper n' (List.mem_cons_of_mem _ hn')
      obtain ⟨hnames, hturns, hchanged'⟩ := ih hproper' hnodup' hsofar
        (hn.not_owns_append hproper' hnew
          (fun n' hn' => hfree n' (List.mem_cons_of_mem _ hn')) howned) hrest
      -- The turns that follow touch nothing that belongs to this namespace.
      have hapart : ∀ loc ∈ reports'.flatMap (touched s w), ¬ Owns s w n.name loc := by
        intro loc hloc
        obtain ⟨r', hr', hloc⟩ := List.mem_flatMap.mp hloc
        have hmem : r'.name ∈ rest.map (·.name) := hnames ▸ List.mem_map_of_mem hr'
        rw [reports_migrateNamespaces hrest] at hr'
        obtain ⟨t, ht, rfl⟩ := List.mem_map.mp hr'
        refine (hturns t ht).not_owns_touched hwrite happly hw hn (fun heq => ?_) loc hloc
        rw [heq] at hmem
        exact hnew hmem
      refine ⟨by simp [hname, hnames], ?_, ?_⟩
      · have htake : takeTurn e s n current = (next, r) := hturn
        intro t ht
        rw [turnsFrom, htake] at ht
        rcases List.mem_cons.mp ht with rfl | ht
        · rw [htake]
          exact ⟨hn, ⟨written, hchanges, hfree'⟩, hfound, hturn, ⟨_, hchanged', hapart⟩⟩
        · exact hturns t ht
      · rw [List.flatMap_cons]
        exact (hchanged.mono (by simp)).trans (hchanged'.mono (by simp))

theorem migrateNamespaces_turns (hwrite : e.write.MayFail) (happly : s.apply = true)
    (hw : w.WellFormed) {mode : Nat}
    (hroot : w.locate s.componentsRoot = .ok (w.place s.componentsRoot))
    (hdir : w.disk.get? (w.place s.componentsRoot) = some (.directory mode))
    {namespaces : List Scan.Namespace} (hproper : ∀ n ∈ namespaces, Proper s w n)
    (hnodup : (namespaces.map (·.name)).Nodup) {current : Workspace} {written : List Location}
    (hchanges : w.Changes written current)
    (hfree : ∀ n ∈ namespaces, ∀ loc ∈ written, ¬ Owns s w n.name loc)
    {last : Workspace} {reports : List NamespaceReport} {warnings : List Scan.Warning}
    (h : migrateNamespaces e s (.ofEntries s.componentsRoot s.ignores) namespaces current =
      (last, reports, warnings)) :
    reports.map (·.name) = namespaces.map (·.name) ∧
      (∀ r ∈ reports, ∃ n current next, Turn e s w last n current next r) ∧
      current.Changes (reports.flatMap (touched s w)) last := by
  obtain ⟨hnames, hturns, hchanged⟩ := turn_of_mem_turnsFrom hwrite happly hw hroot hdir hproper
    hnodup hchanges hfree h
  refine ⟨hnames, fun r hr => ?_, hchanged⟩
  rw [reports_migrateNamespaces h] at hr
  obtain ⟨t, ht, rfl⟩ := List.mem_map.mp hr
  exact ⟨t.1, t.2, _, hturns t ht⟩

theorem proper_of_namespaces (hw : w.WellFormed) (hout : s.CatalogsOutside w)
    {found : List Scan.Namespace}
    (h : Scan.namespaces w s.componentsRoot s.only = .ok found) :
    w.locate s.componentsRoot = .ok (w.place s.componentsRoot) ∧
      (∃ mode, w.disk.get? (w.place s.componentsRoot) = some (.directory mode)) ∧
      (found.map (·.name)).Nodup ∧ ∀ n ∈ found, Proper s w n := by
  obtain ⟨loc, mode, hroot, hdir, hnodup, hfound⟩ := Scan.exists_of_namespaces hw h
  obtain rfl := Workspace.eq_place_of_locate hroot
  refine ⟨hroot, ⟨mode, hdir⟩, hnodup, fun n hn => ?_⟩
  obtain ⟨hdirectory, hname, hthere⟩ := hfound n hn
  refine ⟨hdirectory, hname, hthere, fun place hplace => ?_⟩
  obtain ⟨path, hpath, rfl⟩ := List.mem_map.mp hplace
  exact hout found h n hn path hpath

/-- A run that finds its namespaces ends with a report, whatever fails later. -/
theorem exists_migrate_eq_ok {found : List Scan.Namespace}
    (h : Scan.namespaces w s.componentsRoot s.only = .ok found) :
    ∃ done, migrate e s w = .ok done := by
  unfold migrate
  rw [h]
  rcases migrateNamespaces e s (.ofEntries s.componentsRoot s.ignores) found w with
    ⟨last, reports, warnings⟩
  exact ⟨_, rfl⟩

theorem migrate_single {n : Scan.Namespace}
    (h : Scan.namespaces w s.componentsRoot s.only = .ok [n]) {found : Scan.Found}
    (hfound : Scan.sourceFiles w s.extensions (.ofEntries s.componentsRoot s.ignores)
      n.directory = found) {w' : Workspace} {r : NamespaceReport}
    (hturn : migrateFiles e s n.name found w = (w', r)) :
    ∃ done, migrate e s w = .ok done ∧ done.workspace = w' ∧ done.report.namespaces = [r] := by
  simp only [migrate, h, migrateNamespaces, hfound, hturn]
  exact ⟨_, rfl, rfl, rfl⟩

theorem migrate_cons {n : Scan.Namespace} {rest : List Scan.Namespace}
    (h : Scan.namespaces w s.componentsRoot s.only = .ok (n :: rest)) {found : Scan.Found}
    (hfound : Scan.sourceFiles w s.extensions (.ofEntries s.componentsRoot s.ignores)
      n.directory = found) :
    ∃ done reports, migrate e s w = .ok done ∧
      done.report.namespaces = (migrateFiles e s n.name found w).2 :: reports := by
  simp only [migrate, h, migrateNamespaces, hfound]
  exact ⟨_, _, rfl, rfl⟩

/-- A run takes a turn for every namespace that it finds, and touches nothing else. -/
theorem turns_of_migrate (hwrite : e.write.MayFail) (happly : s.apply = true)
    (hw : w.WellFormed) (hout : s.CatalogsOutside w) {done : Finished}
    (h : migrate e s w = .ok done) :
    (∃ found, Scan.namespaces w s.componentsRoot s.only = .ok found ∧
        done.report.namespaces.map (·.name) = found.map (·.name)) ∧
      (∀ r ∈ done.report.namespaces, ∃ n current next,
        Turn e s w done.workspace n current next r) ∧
      w.Changes (done.report.namespaces.flatMap (touched s w)) done.workspace := by
  unfold migrate at h
  split at h
  · cases h
  rename_i found hfound
  obtain ⟨hroot, ⟨mode, hdir⟩, hnodup, hproper⟩ := proper_of_namespaces hw hout hfound
  simp only at h
  rcases hrun : migrateNamespaces e s (.ofEntries s.componentsRoot s.ignores) found w with
    ⟨last, reports, warnings⟩
  rw [hrun] at h
  cases h
  have hstart : w.Changes [] w := .refl hw
  obtain ⟨hnames, hturns, hchanges⟩ := migrateNamespaces_turns hwrite happly hw hroot hdir
    hproper hnodup hstart (by simp) hrun
  exact ⟨⟨found, hfound, hnames⟩, hturns, hchanges⟩

/-- A run settles all namespaces that it finds, and touches nothing else. -/
theorem settled_of_migrate (hwrite : e.write.MayFail) (happly : s.apply = true)
    (hw : w.WellFormed) (hout : s.CatalogsOutside w) {done : Finished}
    (h : migrate e s w = .ok done) :
    (∃ found, Scan.namespaces w s.componentsRoot s.only = .ok found ∧
        done.report.namespaces.map (·.name) = found.map (·.name)) ∧
      (∀ r ∈ done.report.namespaces,
        NamespaceSettled e s (scanned s w r.name) w done.workspace r) ∧
      w.Changes (done.report.namespaces.flatMap (touched s w)) done.workspace := by
  obtain ⟨hnames, hturns, hchanges⟩ := turns_of_migrate hwrite happly hw hout h
  refine ⟨hnames, fun r hr => ?_, hchanges⟩
  obtain ⟨_, _, _, hturn⟩ := hturns r hr
  exact hturn.settled hwrite happly hw

end

end Run

end Phrasebook
