import Phrasebook.Proofs.Catalog.Loading
import Phrasebook.Proofs.Run.Cataloged

/-!
A dry run tells what a run would do.

A run that writes changes the disk between the namespaces, and a dry run does not. They agree all
the same: no namespace reads what another one writes, and no catalog that was missing turns up. The
one exception is a way to the catalogs that goes up out of a directory which the run has yet to
make.
-/

namespace Phrasebook

open Disk (Location)
open Script (Module)

/-- The same settings for a run that writes nothing. -/
def Settings.dry (s : Settings) : Settings := { s with apply := false }

/-- What would have been reported if the catalogs had only been planned. -/
def NamespaceReport.asPlanned (r : NamespaceReport) : NamespaceReport :=
  { r with written := [], planned := r.written.map (·.path) }

/-- A namespace in which every write succeeded. -/
def NamespaceReport.AllWritten (r : NamespaceReport) : Prop :=
  r.catalogError = none ∧ ∀ f ∈ r.files, ¬ f.Unwritten

theorem NamespaceReport.AllWritten.of_status {r : NamespaceReport} {status : FileStatus}
    (herror : r.catalogError = none) (hstatus : r.files.map (·.status) = [status])
    (h : ∀ cause : WriteError, status ≠ .failed cause.message) : r.AllWritten := by
  refine ⟨herror, fun f hf hunwritten => ?_⟩
  obtain ⟨cause, hcause⟩ := hunwritten
  have hmem : f.status ∈ r.files.map (·.status) := List.mem_map_of_mem hf
  rw [hstatus] at hmem
  exact h cause ((List.mem_singleton.mp hmem).symm.trans hcause)

namespace Run

section

variable {e : Engine} {s : Settings} {namespaceName : String} {blocked : Option Catalog.LoadError}

theorem workspace_advance (happly : s.apply = false) (p : Progress)
    (file : String × Except FileError Component.Outcome) :
    (advance e s namespaceName blocked p file).workspace = p.workspace := by
  obtain ⟨path, cause | ⟨reason, diagnostics⟩ | m⟩ := file
  · rfl
  · rfl
  · cases blocked with
    | none => simp [advance, place, happly]
    | some cause => rfl

theorem workspace_progress (happly : s.apply = false) (w : Workspace) (files : List String) :
    (progress e s namespaceName blocked w files).workspace = w := by
  have hfold : ∀ (outcomes : List (String × Except FileError Component.Outcome)) (p : Progress),
      (outcomes.foldl (advance e s namespaceName blocked) p).workspace = p.workspace := by
    intro outcomes
    induction outcomes with
    | nil => exact fun p => rfl
    | cons file rest ih =>
        intro p
        rw [List.foldl_cons, ih, workspace_advance happly]
  exact hfold _ _

theorem workspace_migrateFiles (happly : s.apply = false) (found : Scan.Found) (w : Workspace) :
    (migrateFiles e s namespaceName found w).1 = w := by
  have hprogress : (progress e s namespaceName (blockedBy (loadedFor e s namespaceName w
      found.files)) w found.files).workspace = w := workspace_progress happly w found.files
  rw [migrateFiles_eq]
  unfold conclude
  split
  · split
    · exact hprogress
    · simpa [finish, happly] using hprogress
  · exact hprogress

theorem workspace_migrateNamespaces (happly : s.apply = false) (rules : Scan.IgnoreRules)
    (namespaces : List Scan.Namespace) (w : Workspace) :
    (migrateNamespaces e s rules namespaces w).1 = w := by
  induction namespaces with
  | nil => rfl
  | cons n rest ih =>
      rw [migrateNamespaces]
      simp only
      rw [workspace_migrateFiles happly, ih]

end

section

variable {e : Engine} {s : Settings} {namespaceName : String}

/-- A dry run goes on with a file just as a run that can write it. -/
theorem advance_dry (hwrite : e.write.MayFail) (happly : s.apply = true)
    (blocked : Option Catalog.LoadError) {p : Progress} (hp : p.workspace.WellFormed)
    {path : String} (hsteady : p.workspace.Steady path)
    (result : Except FileError Component.Outcome)
    (hwritten : ∀ f ∈ (advance e s namespaceName blocked p (path, result)).files, ¬ f.Unwritten)
    (w : Workspace) :
    advance e s.dry namespaceName blocked { p with workspace := w } (path, result) =
        { advance e s namespaceName blocked p (path, result) with workspace := w } ∧
      p.workspace.Grows [p.workspace.place path]
        (advance e s namespaceName blocked p (path, result)).workspace := by
  rcases result with cause | ⟨reason, diagnostics⟩ | m
  · exact ⟨rfl, .refl hp⟩
  · exact ⟨rfl, .refl hp⟩
  rcases blocked with _ | cause
  · rcases hresult : e.write p.workspace path (.text m.code) with ⟨w', _ | cause⟩
    · have hadvance : advance e s namespaceName none p (path, .ok (.migrated m)) =
          { workspace := w'
            fresh := Catalog.extend p.fresh m.entries
            keys := p.keys + m.entries.length
            files := p.files ++ [⟨path, display s.componentsRoot path,
              .translated m.entries.length, m.diagnostics, m.observed⟩] } := by
        simp only [advance, place, happly, if_true, hresult, Option.map_none]
      rw [hadvance]
      exact ⟨rfl, hwrite.grows_of_success hp hsteady hresult⟩
    · refine absurd ⟨cause, rfl⟩ (hwritten ⟨path, display s.componentsRoot path,
        .failed ((FileError.write cause).message path), m.diagnostics, false⟩ ?_)
      simp only [advance, place, happly, if_true, hresult, Option.map_some]
      exact List.mem_append_right _ (List.mem_singleton_self _)
  · exact ⟨rfl, .refl hp⟩

theorem foldl_advance_dry (hwrite : e.write.MayFail) (happly : s.apply = true)
    (blocked : Option Catalog.LoadError)
    {outcomes : List (String × Except FileError Component.Outcome)} {p : Progress}
    (hp : p.workspace.WellFormed)
    (hsteady : ∀ o ∈ outcomes, p.workspace.Steady o.1)
    (hwritten : ∀ f ∈ (outcomes.foldl (advance e s namespaceName blocked) p).files,
      ¬ f.Unwritten) (w : Workspace) :
    outcomes.foldl (advance e s.dry namespaceName blocked) { p with workspace := w } =
        { outcomes.foldl (advance e s namespaceName blocked) p with workspace := w } ∧
      p.workspace.Grows (outcomes.map fun o => p.workspace.place o.1)
        (outcomes.foldl (advance e s namespaceName blocked) p).workspace := by
  induction outcomes generalizing p with
  | nil => exact ⟨rfl, .refl hp⟩
  | cons file rest ih =>
      obtain ⟨path, result⟩ := file
      obtain ⟨hstep, hgrows⟩ := advance_dry hwrite happly blocked hp
        (hsteady _ List.mem_cons_self) result
        (fun f hf => hwritten f (mem_files_foldl blocked rest hf)) w
      obtain ⟨hrest, hgrows'⟩ := ih (hgrows.wellFormed hp)
        (fun o ho => hgrows.steady (hsteady o (List.mem_cons_of_mem _ ho))) hwritten
      refine ⟨by rw [List.foldl_cons, hstep, hrest, List.foldl_cons], ?_⟩
      have hplace := funext hgrows.place_eq
      rw [hplace] at hgrows'
      exact (hgrows.mono (by simp)).trans (hgrows'.mono (by simp))

theorem map_outcome_dry {current w : Workspace} {files : List String}
    (h : ∀ path ∈ files,
      outcome e s namespaceName current path = outcome e s namespaceName w path) :
    files.map (fun path => (path, outcome e s.dry namespaceName w path)) =
      files.map fun path => (path, outcome e s namespaceName current path) :=
  List.map_congr_left fun path hpath => congrArg (Prod.mk path) (h path hpath).symm

theorem progress_dry (hwrite : e.write.MayFail) (happly : s.apply = true)
    (blocked : Option Catalog.LoadError) {current w : Workspace} (hcurrent : current.WellFormed)
    {files : List String}
    (houtcome : ∀ path ∈ files,
      outcome e s namespaceName current path = outcome e s namespaceName w path)
    (hsteady : ∀ path ∈ files, current.Steady path)
    (hwritten : ∀ f ∈ (progress e s namespaceName blocked current files).files, ¬ f.Unwritten) :
    progress e s.dry namespaceName blocked w files =
        { progress e s namespaceName blocked current files with workspace := w } ∧
      current.Grows (files.map current.place)
        (progress e s namespaceName blocked current files).workspace := by
  have houtcomes : ∀ o ∈ files.map (fun path => (path, outcome e s namespaceName current path)),
      current.Steady o.1 := by
    intro o ho
    obtain ⟨path, hpath, rfl⟩ := List.mem_map.mp ho
    exact hsteady path hpath
  obtain ⟨hfold, hgrows⟩ := foldl_advance_dry (p := { workspace := current }) hwrite happly blocked
    hcurrent houtcomes hwritten w
  rw [List.map_map] at hgrows
  refine ⟨?_, hgrows⟩
  rw [progress, map_outcome_dry houtcome]
  exact hfold

/-- A dry run ends the turn of a namespace with a plan of what a run would have written. -/
theorem conclude_dry (hwrite : e.write.MayFail) (happly : s.apply = true) {found : Scan.Found}
    {p : Progress} (hp : p.workspace.WellFormed)
    (hsteady : ∀ path ∈ s.store.paths namespaceName, p.workspace.Steady path)
    {w₀ next : Workspace} {loaded : Except Catalog.LoadError (Option Catalog.Existing)}
    (hloaded : ∀ existing, loaded = .ok (some existing) →
      s.store.loadExisting w₀ namespaceName = .ok existing) {r : NamespaceReport}
    (h : conclude e s (reported namespaceName found p) p loaded = (next, r))
    (hr : r.catalogError = none) (w : Workspace) :
    conclude e s.dry (reported namespaceName found p) { p with workspace := w } loaded =
        (w, r.asPlanned) ∧
      p.workspace.Grows (s.store.places p.workspace namespaceName) next := by
  rcases loaded with cause | _ | existing
  · cases h
    exact ⟨rfl, .refl hp⟩
  · cases h
    exact ⟨rfl, .refl hp⟩
  by_cases hfresh : p.fresh = []
  · rw [conclude_of_fresh_eq_nil hfresh] at h
    cases h
    exact ⟨conclude_of_fresh_eq_nil (p := { p with workspace := w }) hfresh _, .refl hp⟩
  · have hsome : p.fresh.isEmpty = false := List.isEmpty_eq_false_iff.mpr hfresh
    simp only [conclude, hsome, Bool.false_eq_true, if_false, finish, happly, if_true] at h
    split at h
    · rename_i w' written hsaved
      cases h
      obtain ⟨hgrows, hpaths⟩ := Catalog.Store.grows_saveNamespace hwrite hp hsteady
        (hloaded existing rfl) hsaved
      refine ⟨?_, hgrows⟩
      simp only [conclude, hsome, Bool.false_eq_true, if_false, finish, Settings.dry]
      rw [NamespaceReport.asPlanned, hpaths]
      rfl
    · cases h
      cases hr

/-- The turn of a namespace in a dry run, if its files and catalogs are as in the run that writes
all of them. -/
theorem migrateFiles_dry (hwrite : e.write.MayFail) (happly : s.apply = true)
    {current w : Workspace} (hcurrent : current.WellFormed)
    {found : Scan.Found}
    (houtcome : ∀ path ∈ found.files,
      outcome e s namespaceName current path = outcome e s namespaceName w path)
    (hexisting : s.store.loadExisting current namespaceName =
      s.store.loadExisting w namespaceName)
    (hfiles : ∀ path ∈ found.files, current.Steady path)
    (hcatalogs : ∀ path ∈ s.store.paths namespaceName, current.Steady path) {next : Workspace}
    {r : NamespaceReport} (h : migrateFiles e s namespaceName found current = (next, r))
    (hr : r.AllWritten) :
    migrateFiles e s.dry namespaceName found w = (w, r.asPlanned) ∧
      current.Grows (found.files.map current.place ++ s.store.places current namespaceName)
        next := by
  have hloaded : loadedFor e s.dry namespaceName w found.files =
      loadedFor e s namespaceName current found.files := by
    unfold loadedFor
    rw [map_outcome_dry houtcome, hexisting]
    rfl
  have hreports := files_migrateFiles e s namespaceName found current
  rw [h] at hreports
  obtain ⟨hprogress, hgrows⟩ := progress_dry hwrite happly
    (blockedBy (loadedFor e s namespaceName current found.files)) hcurrent houtcome hfiles
    (fun f hf => hr.2 f (hreports ▸ hf))
  rw [migrateFiles_eq] at h
  obtain ⟨hconclude, hgrows'⟩ := conclude_dry hwrite happly (hgrows.wellFormed hcurrent)
    (fun path hpath => hgrows.steady (hcatalogs path hpath))
    (fun existing hload => loadExisting_of_loadedFor hload) h hr.1 w
  constructor
  · rw [migrateFiles_eq, hloaded, hprogress]
    exact hconclude
  · rw [Catalog.Store.places_eq_of_directory hgrows.directory] at hgrows'
    exact (hgrows.mono (by simp)).trans (hgrows'.mono (by simp))

end

section

variable {e : Engine} {s : Settings} {w : Workspace} (hwrite : e.write.MayFail)
  (happly : s.apply = true) (hw : w.WellFormed) (hrooted : w.Rooted)
  (hlocales : ∀ locale ∈ s.store.baseLocale :: s.store.mockLocales, Path.IsName locale)
  (hstore : w.Steady s.store.root)
include hwrite happly hw hrooted hlocales hstore

/-- The turn of a namespace in a dry run, after a run has written what belongs to others. -/
theorem Proper.migrateFiles_dry {n : Scan.Namespace} (hn : Proper s w n) {current next : Workspace}
    {written : List Location} (hgrows : w.Grows written current)
    (hfree : ∀ loc ∈ written, ¬ Owns s w n.name loc)
    (hplaces : ∀ loc ∈ written, w.disk.get? loc ≠ none ∨
      ∃ other, Path.IsName other ∧ loc ∈ s.store.places w other)
    {found : Scan.Found} (hfound : found.files = scanned s w n.name) {r : NamespaceReport}
    (h : migrateFiles e s n.name found current = (next, r)) (hr : r.AllWritten) :
    migrateFiles e s.dry n.name found w = (w, r.asPlanned) ∧
      w.Grows (written ++ ((scanned s w n.name).map w.place ++ s.store.places w n.name)) next := by
  obtain ⟨hsources, -⟩ := hn.sameAt_of_changes hw hw rfl hgrows.toChanges hfree
  have hexisting : s.store.loadExisting current n.name = s.store.loadExisting w n.name :=
    Catalog.Store.loadExisting_eq_of_grows hlocales hgrows hw hrooted hstore hn.isName
      (fun loc hloc hmem => hfree loc hmem (Or.inr hloc)) hplaces
  have hcatalogs : ∀ path ∈ s.store.paths n.name, current.Steady path := by
    intro path hpath
    obtain ⟨locale, hlocale, rfl⟩ := List.mem_map.mp hpath
    exact hgrows.steady (Catalog.Store.steady_path hstore (hlocales locale hlocale) hn.isName)
  obtain ⟨hdry, hturn⟩ := Run.migrateFiles_dry hwrite happly (hgrows.wellFormed hw)
    (fun path hpath => outcome_congr (hn.readText_eq hw hrooted hgrows.toChanges (hfound ▸ hpath)
      (hsources path (hfound ▸ hpath))))
    hexisting
    (fun path hpath => hgrows.steady (hn.exists_of_mem_scanned hw (hfound ▸ hpath)).1)
    hcatalogs h hr
  have hplace : current.place = w.place := funext hgrows.place_eq
  rw [hfound, hplace, Catalog.Store.places_eq_of_directory hgrows.directory] at hturn
  exact ⟨hdry, (hgrows.mono (by simp)).trans (hturn.mono (by simp))⟩

/-- All turns of a dry run. What a run has written so far belongs to no namespace that is still to
come, and it is a source file or a catalog. -/
theorem migrateNamespaces_dry {mode : Nat}
    (hroot : w.locate s.componentsRoot = .ok (w.place s.componentsRoot))
    (hdir : w.disk.get? (w.place s.componentsRoot) = some (.directory mode))
    {namespaces : List Scan.Namespace} (hproper : ∀ n ∈ namespaces, Proper s w n)
    (hnodup : (namespaces.map (·.name)).Nodup) {current : Workspace} {written : List Location}
    (hgrows : w.Grows written current)
    (hfree : ∀ n ∈ namespaces, ∀ loc ∈ written, ¬ Owns s w n.name loc)
    (hplaces : ∀ loc ∈ written, w.disk.get? loc ≠ none ∨
      ∃ other, Path.IsName other ∧ loc ∈ s.store.places w other)
    {last : Workspace} {reports : List NamespaceReport} {warnings : List Scan.Warning}
    (h : migrateNamespaces e s (.ofEntries s.componentsRoot s.ignores) namespaces current =
      (last, reports, warnings))
    (hall : ∀ r ∈ reports, r.AllWritten) :
    migrateNamespaces e s.dry (.ofEntries s.componentsRoot s.ignores) namespaces w =
      (w, reports.map (·.asPlanned), warnings) := by
  induction namespaces generalizing current written reports warnings with
  | nil =>
      rw [migrateNamespaces] at h
      cases h
      rfl
  | cons n rest ih =>
      have hn : Proper s w n := hproper n List.mem_cons_self
      have hfree' := hfree n List.mem_cons_self
      have hscan := hn.sourceFiles_eq hroot hdir hgrows.toChanges hfree'
      rw [migrateNamespaces] at h
      simp only [hscan] at h
      rcases hturn : migrateFiles e s n.name (Scan.sourceFiles w s.extensions
        (.ofEntries s.componentsRoot s.ignores) n.directory) current with ⟨next, r⟩
      rcases hrest : migrateNamespaces e s (.ofEntries s.componentsRoot s.ignores) rest next with
        ⟨last', reports', warnings'⟩
      simp only [hturn, hrest] at h
      cases h
      obtain ⟨hdry, hnext⟩ := hn.migrateFiles_dry hwrite happly hw hrooted hlocales hstore hgrows
        hfree' hplaces hn.files_sourceFiles hturn (hall r List.mem_cons_self)
      obtain ⟨hnew, hnodup'⟩ := List.nodup_cons.mp hnodup
      have hproper' : ∀ n' ∈ rest, Proper s w n' := fun n' hn' =>
        hproper n' (List.mem_cons_of_mem _ hn')
      have hfree'' := hn.not_owns_append hproper' hnew
        (fun n' hn' => hfree n' (List.mem_cons_of_mem _ hn'))
        (fun loc hloc => hn.owns_of_mem hw hloc)
      have hplaces' : ∀ loc ∈ written ++ ((scanned s w n.name).map w.place ++
          s.store.places w n.name), w.disk.get? loc ≠ none ∨
            ∃ other, Path.IsName other ∧ loc ∈ s.store.places w other := by
        intro loc hloc
        rcases List.mem_append.mp hloc with hold | hloc
        · exact hplaces loc hold
        rcases List.mem_append.mp hloc with hfile | hcatalog
        · obtain ⟨path, hpath, rfl⟩ := List.mem_map.mp hfile
          obtain ⟨-, content, hcontent⟩ := hn.exists_of_mem_scanned hw hpath
          obtain ⟨mode, hnode⟩ := Workspace.exists_file_of_contentAt hcontent
          exact Or.inl (by rw [hnode]; simp)
        · exact Or.inr ⟨n.name, hn.isName, hcatalog⟩
      have hrestDry := ih hproper' hnodup' hnext hfree'' hplaces' hrest
        (fun r' hr' => hall r' (List.mem_cons_of_mem _ hr'))
      have hextensions : s.dry.extensions = s.extensions := rfl
      simp only [migrateNamespaces, hextensions, hdry, hrestDry, List.map_cons]

end

theorem workspace_of_migrate {e : Engine} {s : Settings} {w : Workspace} {done : Finished}
    (happly : s.apply = false) (h : migrate e s w = .ok done) : done.workspace = w := by
  unfold migrate at h
  split at h
  · cases h
  rename_i found hfound
  have hrun := workspace_migrateNamespaces (e := e) happly
    (.ofEntries s.componentsRoot s.ignores) found w
  cases h
  exact hrun

/-- A dry run changes nothing. It reports what a run reports that can write all its files, with the
paths of the catalogs that are written as a plan, if all steps up to the catalogs can be taken when
the run starts. -/
theorem dryRun_agrees {e : Engine} {s : Settings} {w : Workspace} (hwrite : e.write.MayFail)
    (happly : s.apply = true) (hw : w.WellFormed) (hrooted : w.Rooted) (hout : s.CatalogsOutside w)
    (hlocales : ∀ locale ∈ s.baseLocale :: s.mockLocales, Path.IsName locale)
    (hclimbable : w.Climbable s.localesRoot) :
    (∀ dry, migrate e s.dry w = .ok dry → dry.workspace = w) ∧
      ∀ done, migrate e s w = .ok done → (∀ r ∈ done.report.namespaces, r.AllWritten) →
        ∃ dry, migrate e s.dry w = .ok dry ∧
          dry.report.namespaces = done.report.namespaces.map (·.asPlanned) ∧
          dry.warnings = done.warnings := by
  refine ⟨fun dry hdry => workspace_of_migrate rfl hdry, fun done h hall => ?_⟩
  unfold migrate at h
  split at h
  · cases h
  rename_i found hfound
  obtain ⟨hroot, ⟨mode, hdir⟩, hnodup, hproper⟩ := proper_of_namespaces hw hout hfound
  simp only at h
  rcases hrun : migrateNamespaces e s (.ofEntries s.componentsRoot s.ignores) found w with
    ⟨last, reports, warnings⟩
  rw [hrun] at h
  cases h
  have hstart : w.Grows [] w := .refl hw
  have hdry := migrateNamespaces_dry hwrite happly hw hrooted hlocales (hclimbable.steady hrooted)
    hroot hdir hproper hnodup hstart (by simp) (by simp) hrun hall
  have hfound' : Scan.namespaces w s.dry.componentsRoot s.dry.only = .ok found := hfound
  have hrun' : migrateNamespaces e s.dry (.ofEntries s.dry.componentsRoot s.dry.ignores) found w =
      (w, reports.map (·.asPlanned), warnings) := hdry
  simp only [migrate, hfound', hrun']
  exact ⟨_, rfl, rfl, rfl⟩

theorem migrate_pair {e : Engine} {s : Settings} {w w' w'' : Workspace} {n n' : Scan.Namespace}
    (h : Scan.namespaces w s.componentsRoot s.only = .ok [n, n']) {found found' : Scan.Found}
    (hfound : Scan.sourceFiles w s.extensions (.ofEntries s.componentsRoot s.ignores)
      n.directory = found) {r r' : NamespaceReport}
    (hturn : migrateFiles e s n.name found w = (w', r))
    (hfound' : Scan.sourceFiles w' s.extensions (.ofEntries s.componentsRoot s.ignores)
      n'.directory = found')
    (hturn' : migrateFiles e s n'.name found' w' = (w'', r')) :
    ∃ done, migrate e s w = .ok done ∧ done.report.namespaces = [r, r'] := by
  simp only [migrate, h, migrateNamespaces, hfound, hturn, hfound', hturn']
  exact ⟨_, rfl, rfl⟩

section

variable {e : Engine} {s : Settings} {namespaceName path : String} {w : Workspace}
  {m : Component.Migrated}

theorem migrateFiles_single_blocked {cause : Catalog.LoadError}
    (houtcome : outcome e s namespaceName w path = .ok (.migrated m))
    (hcause : s.store.loadExisting w namespaceName = .error cause) :
    ∃ r, migrateFiles e s namespaceName ⟨[path], []⟩ w = (w, r) ∧ r.catalogError = none ∧
      r.files.map (·.status) =
        [.failed ((FileError.blocked namespaceName cause).message path)] := by
  simp only [migrateFiles, List.map_cons, List.map_nil, houtcome, List.any_cons, needsCatalog,
    Bool.true_or, if_true, hcause, Except.map, List.foldl_cons, List.foldl_nil, advance, place]
  exact ⟨_, rfl, rfl, rfl⟩

theorem status_migrateFiles_single {existing : Catalog.Existing} {w' : Workspace}
    (houtcome : outcome e s namespaceName w path = .ok (.migrated m))
    (hexisting : s.store.loadExisting w namespaceName = .ok existing)
    (hplaced : place e s namespaceName none w path m.code = (w', none)) :
    (migrateFiles e s namespaceName ⟨[path], []⟩ w).2.files.map (·.status) =
      [.translated m.entries.length] := by
  rw [files_migrateFiles]
  simp only [loadedFor, progress, List.map_cons, List.map_nil, houtcome, List.any_cons,
    needsCatalog, Bool.true_or, if_true, hexisting, Except.map, blockedBy, List.foldl_cons,
    List.foldl_nil, advance, hplaced, List.nil_append]

theorem migrateFiles_single_dry {existing : Catalog.Existing} (happly : s.apply = false)
    (houtcome : outcome e s namespaceName w path = .ok (.migrated m))
    (hexisting : s.store.loadExisting w namespaceName = .ok existing) :
    ∃ r, migrateFiles e s namespaceName ⟨[path], []⟩ w = (w, r) ∧
      r.files.map (·.status) = [.translated m.entries.length] := by
  have hplaced : place e s namespaceName none w path m.code = (w, none) := by
    simp only [place, happly, Bool.false_eq_true, if_false]
  exact ⟨_, Prod.ext (workspace_migrateFiles happly _ _) rfl,
    status_migrateFiles_single houtcome hexisting hplaced⟩

end

def note : String := "import R from 'react';\nconst a = <p>Hi you</p>;\n"

def migratedNote : String :=
  "import \x7b useTranslation \x7d from 'react-i18next';\nimport R from 'react';\n"
    ++ "const a = <p>\x7bt('.hi_you')\x7d</p>;\n"

def noteEntry : Catalog.Entry := ⟨"", "hi_you", "Hi you"⟩

def noteModule : Module :=
  ⟨⟨0, 47⟩,
    [.mk ⟨0, 22⟩ (.importFrom ⟨some "react", '\''⟩ ["R"]) [],
     .mk ⟨23, 47⟩ .variableList
      [.mk ⟨29, 46⟩ .declarator
        [.mk ⟨29, 30⟩ (.binding "a") [],
         .mk ⟨33, 46⟩ .other [.mk ⟨36, 42⟩ (.markupText "Hi you" "Hi you") []]]]]⟩

def notePath (namespaceName : String) : String :=
  "./src/components/" ++ namespaceName ++ "/Note.jsx"

/-- Two namespaces with the same file, and a catalog of the second that cannot be used. -/
def noteProject : Workspace where
  disk := ⟨[(["src"], .directory 0o755), (["src", "components"], .directory 0o755),
    (["src", "components", "Common"], .directory 0o755),
    (["src", "components", "Common", "Note.jsx"], .file (.text note) 0o644),
    (["src", "components", "Shop"], .directory 0o755),
    (["src", "components", "Shop", "Note.jsx"], .file (.text note) 0o644),
    (["locales"], .directory 0o755), (["locales", "en"], .directory 0o755),
    (["locales", "en", "Shop.json"], .file (.text "[]\n") 0o644)]⟩
  directory := []

/-- The catalogs are in the directory `locales`, which can be reached in different ways. -/
def noteSettings (root : String) : Settings := { localesRoot := root, apply := true }

/-- The project when the turn of its first namespace is over, and how its catalogs were saved. -/
def savedNotes (root : String) : Workspace × Except WriteError (List Catalog.Written) :=
  (noteSettings root).store.saveNamespace Workspace.replace Mock.shuffled
    (Workspace.replace noteProject (notePath "Common") (.text migratedNote)).1 "Common"
    ⟨[], [("de", [])]⟩ (Catalog.extend [] [noteEntry])

structure NoteFacts (root : String) : Prop where
  listed : (noteProject.list "./src/components").toOption =
    some [("Common", .directory 0o755), ("Shop", .directory 0o755)]
  kept : ∀ n ∈ ["Common", "Shop"],
    (!(Scan.IgnoreRules.ofEntries "./src/components" []).ignores (notePath n) &&
      Scan.hasExtension ({} : Settings).extensions (notePath n)) = true
  found : ∀ n ∈ ["Common", "Shop"],
    (Scan.regularFiles noteProject (Path.join "./src/components" n)).toOption = some [notePath n]
  source : ∀ n ∈ ["Common", "Shop"], (noteProject.readText (notePath n)).toOption = some note
  written : (Workspace.replace noteProject (notePath "Common") (.text migratedNote)).2 = none
  missing : ∀ path ∈ (noteSettings root).store.paths "Common", noteProject.has path = false
  outside : ∀ n ∈ ["Common", "Shop"], ∀ path ∈ (noteSettings root).store.paths n,
    ¬ noteProject.place "./src/components" <+: noteProject.place path
  saved : (savedNotes root).2.toOption.isSome = true
  foundLater : (Scan.regularFiles (savedNotes root).1
    (Path.join "./src/components" "Shop")).toOption = some [notePath "Shop"]
  sourceLater : ((savedNotes root).1.readText (notePath "Shop")).toOption = some note
  unusable : (Catalog.load (savedNotes root).1
    ((noteSettings root).store.path "Shop" "en")).toOption.isNone = true

theorem noteFacts : ∀ root ∈ ["ghost/../locales", "src/../locales"], NoteFacts root := by
  intro root hroot
  -- The fields share the writes of the first namespace, so they are evaluated together.
  refine (fun ⟨a, b, c, d, e, f, g, h, i, j, k⟩ => ⟨a, b, c, d, e, f, g, h, i, j, k⟩ :
    _ ∧ _ ∧ _ ∧ _ ∧ _ ∧ _ ∧ _ ∧ _ ∧ _ ∧ _ ∧ _ → _) ?_
  revert root
  decide +kernel

theorem wellFormed_noteProject : noteProject.WellFormed where
  disk := ⟨by decide, by decide⟩
  directory := by
    intro name hname
    cases hname

theorem rooted_noteProject : noteProject.Rooted :=
  Workspace.rooted_of_nodes (by decide) (by decide)

theorem migrateWith_note {read : String → Option Module} (hnote : read note = some noteModule)
    (hmigrated : (read migratedNote).isSome = true) {namespaceName : String}
    (hname : namespaceName ∈ ["Common", "Shop"]) :
    ∃ m, Component.migrateWith read {} namespaceName note = .ok (.migrated m) ∧
      m.code = migratedNote ∧ m.entries = [noteEntry] := by
  have hedits : ∀ namespaceName ∈ ["Common", "Shop"],
      Component.rewriteEdits {} note.toList ⟨namespaceName, '\''⟩ noteModule ++
        [Component.importEdit {} (Component.classify {} noteModule) ⟨namespaceName, '\''⟩
          noteModule] =
        [⟨⟨36, 42⟩, "\x7bt('.hi_you')\x7d"⟩,
          .insert 0 "import \x7b useTranslation \x7d from 'react-i18next';\n"] := by
    decide +kernel
  have hcode : (Source.applyEdits note
      [⟨⟨36, 42⟩, "\x7bt('.hi_you')\x7d"⟩,
        .insert 0 "import \x7b useTranslation \x7d from 'react-i18next';\n"]).toOption =
      some migratedNote := by
    rw [Source.applyEdits_of_descending (by decide)]
    decide +kernel
  obtain ⟨result, hresult⟩ := Option.isSome_iff_exists.mp hmigrated
  obtain ⟨m, hm, hcode', hentries⟩ := Component.migrateWith_of_applyEdits hnote
    (by decide +kernel) (by decide +kernel)
    (hedits namespaceName hname ▸ eq_ok_of_toOption hcode) hresult
  exact ⟨m, hm, hcode', hentries.trans (by decide +kernel)⟩

/-- How the files of the namespaces are reported. -/
def statuses (done : Finished) : List (List FileStatus) :=
  done.report.namespaces.map fun r => r.files.map (·.status)

section

variable {root : String} (h : NoteFacts root)
include h

theorem namespaces_noteProject : Scan.namespaces noteProject "./src/components" [] =
    .ok [⟨"Common", Path.join "./src/components" "Common"⟩,
      ⟨"Shop", Path.join "./src/components" "Shop"⟩] :=
  Scan.namespaces_of_list ["Common", "Shop"] (eq_ok_of_toOption h.listed) (by decide)

theorem catalogsOutside_noteProject : (noteSettings root).CatalogsOutside noteProject := by
  refine Settings.catalogsOutside_of_namespaces (namespaces_noteProject h) fun n hn path hpath => ?_
  rcases List.mem_cons.mp hn with rfl | hn
  · exact h.outside "Common" (by simp) path hpath
  · obtain rfl := List.mem_singleton.mp hn
    exact h.outside "Shop" (by simp) path hpath

theorem sourceFiles_note {s : Settings} (hextensions : s.extensions = ({} : Settings).extensions)
    {n : String} (hname : n ∈ ["Common", "Shop"]) {w : Workspace}
    (hfound : (Scan.regularFiles w (Path.join "./src/components" n)).toOption =
      some [notePath n]) :
    Scan.sourceFiles w s.extensions (.ofEntries "./src/components" [])
        (Path.join "./src/components" n) = ⟨[notePath n], []⟩ := by
  rw [hextensions]
  exact Scan.sourceFiles_of_regularFiles (eq_ok_of_toOption hfound) (h.kept n hname)

end

section

variable {root : String} (read : String → String → Option Module)
  (hread : ∀ n ∈ ["Common", "Shop"], read (notePath n) note = some noteModule ∧
    (read (notePath n) migratedNote).isSome = true)
include hread

theorem outcome_note {s : Settings} (hoptions : s.toOptions = {})
    {n : String} (hname : n ∈ ["Common", "Shop"]) {w : Workspace}
    (hsource : (w.readText (notePath n)).toOption = some note) :
    ∃ m, outcome (.reading read Mock.shuffled Workspace.replace) s n w (notePath n) =
        .ok (.migrated m) ∧ m.code = migratedNote ∧ m.entries = [noteEntry] := by
  obtain ⟨hnote, hmigrated⟩ := hread n hname
  obtain ⟨m, hm, hcode, hentries⟩ := migrateWith_note hnote hmigrated hname
  rw [← hoptions] at hm
  exact ⟨m, outcome_eq_ok (e := .reading read Mock.shuffled Workspace.replace)
    (eq_ok_of_toOption hsource) hm, hcode, hentries⟩

theorem migrateFiles_common (h : NoteFacts root) :
    ∃ r, migrateFiles (.reading read Mock.shuffled Workspace.replace) (noteSettings root) "Common"
        ⟨[notePath "Common"], []⟩ noteProject = ((savedNotes root).1, r) ∧ r.AllWritten ∧
      r.files.map (·.status) = [.translated 1] := by
  obtain ⟨m, hm, hcode, hentries⟩ := outcome_note (s := noteSettings root) read hread rfl
    (by simp) (h.source "Common" (by simp))
  have hwritten : Workspace.replace noteProject (notePath "Common") (.text m.code) =
      ((Workspace.replace noteProject (notePath "Common") (.text migratedNote)).1, none) := by
    rw [hcode]
    exact eq_mk_of_snd_eq h.written
  obtain ⟨written, hwritten'⟩ := Option.isSome_iff_exists.mp h.saved
  have hsaved : (noteSettings root).store.saveNamespace Workspace.replace Mock.shuffled
      (Workspace.replace noteProject (notePath "Common") (.text migratedNote)).1 "Common"
      ⟨[], [("de", [])]⟩ (Catalog.extend [] m.entries) = ((savedNotes root).1, .ok written) := by
    rw [hentries]
    exact eq_mk_of_snd_eq (eq_ok_of_toOption hwritten')
  obtain ⟨r, hturn, -, hstatus, -, hreported⟩ := migrateFiles_single
    (e := .reading read Mock.shuffled Workspace.replace) (s := noteSettings root) rfl hm
    (Catalog.Store.loadExisting_of_missing h.missing) hwritten (by simp [hentries]) hsaved
  rw [hentries] at hstatus
  exact ⟨r, hturn, .of_status hreported hstatus (fun cause heq => by cases heq), hstatus⟩

theorem migrateFiles_shop (h : NoteFacts root) :
    ∃ r message, migrateFiles (.reading read Mock.shuffled Workspace.replace) (noteSettings root)
        "Shop" ⟨[notePath "Shop"], []⟩ (savedNotes root).1 = ((savedNotes root).1, r) ∧
      r.AllWritten ∧ r.files.map (·.status) = [.failed message] := by
  obtain ⟨m, hm, -⟩ := outcome_note (s := noteSettings root) read hread rfl (by simp) h.sourceLater
  obtain ⟨cause, hcause⟩ := Catalog.Store.exists_loadExisting_eq_error_iff.mpr
    ⟨"en", List.mem_cons_self, exists_error_of_toOption h.unusable⟩
  obtain ⟨r, hturn, herror, hstatus⟩ := migrateFiles_single_blocked hm hcause
  refine ⟨r, _, hturn, .of_status herror hstatus fun cause' hcause' => ?_, hstatus⟩
  obtain ⟨cause'', hwrite⟩ := FileError.eq_write_of_message_eq (FileStatus.failed.inj hcause')
  cases hwrite

/-- A run writes the first namespace, and the catalog of the second one blocks it. -/
theorem migrate_noteProject (h : NoteFacts root) :
    ∃ done message, migrate (.reading read Mock.shuffled Workspace.replace) (noteSettings root)
        noteProject = .ok done ∧
      (∀ r ∈ done.report.namespaces, r.AllWritten) ∧
      statuses done = [[.translated 1], [.failed message]] := by
  obtain ⟨r, hturn, hr, hstatus⟩ := migrateFiles_common read hread h
  obtain ⟨r', message, hturn', hr', hstatus'⟩ := migrateFiles_shop read hread h
  have hfound := sourceFiles_note h (s := noteSettings root) rfl (by simp)
    (h.found "Common" (by simp))
  have hfound' := sourceFiles_note h (s := noteSettings root) rfl (by simp) h.foundLater
  obtain ⟨done, hdone, hreports⟩ := migrate_pair (s := noteSettings root)
    (namespaces_noteProject h) hfound hturn hfound' hturn'
  refine ⟨done, message, hdone, ?_, by simp [statuses, hreports, hstatus, hstatus']⟩
  rw [hreports]
  intro r'' hr''
  rcases List.mem_cons.mp hr'' with rfl | hr''
  · exact hr
  · obtain rfl := List.mem_singleton.mp hr''
    exact hr'

/-- A dry run plans both namespaces if it does not see their catalogs. -/
theorem migrate_noteProject_dry (h : NoteFacts root)
    (hmissing : ∀ n ∈ ["Common", "Shop"], ∀ path ∈ (noteSettings root).store.paths n,
      noteProject.has path = false) :
    ∃ dry, migrate (.reading read Mock.shuffled Workspace.replace) (noteSettings root).dry
        noteProject = .ok dry ∧
      statuses dry = [[.translated 1], [.translated 1]] := by
  have hturn : ∀ n ∈ ["Common", "Shop"], ∃ r,
      migrateFiles (.reading read Mock.shuffled Workspace.replace) (noteSettings root).dry n
        ⟨[notePath n], []⟩ noteProject = (noteProject, r) ∧
      r.files.map (·.status) = [.translated 1] := by
    intro n hname
    obtain ⟨m, hm, -, hentries⟩ := outcome_note (s := (noteSettings root).dry) read hread rfl hname
      (h.source n hname)
    obtain ⟨r, hturn, hstatus⟩ := migrateFiles_single_dry rfl hm
      (Catalog.Store.loadExisting_of_missing (hmissing n hname))
    rw [hentries] at hstatus
    exact ⟨r, hturn, hstatus⟩
  have hfound : ∀ n ∈ ["Common", "Shop"], Scan.sourceFiles noteProject
      (noteSettings root).dry.extensions (.ofEntries "./src/components" [])
      (Path.join "./src/components" n) = ⟨[notePath n], []⟩ := fun n hname =>
    sourceFiles_note h (s := (noteSettings root).dry) rfl hname (h.found n hname)
  obtain ⟨r, hturn₁, hstatus₁⟩ := hturn "Common" (by simp)
  obtain ⟨r', hturn₂, hstatus₂⟩ := hturn "Shop" (by simp)
  obtain ⟨dry, hdry, hreports⟩ := migrate_pair (s := (noteSettings root).dry)
    (namespaces_noteProject h) (hfound "Common" (by simp)) hturn₁ (hfound "Shop" (by simp)) hturn₂
  exact ⟨dry, hdry, by simp [statuses, hreports, hstatus₁, hstatus₂]⟩

end

theorem parse_note : ∀ n ∈ ["Common", "Shop"],
    Script.parse (.ofPath (notePath n)) note = some noteModule ∧
      (Script.parse (.ofPath (notePath n)) migratedNote).isSome = true := by
  have hdialect : ∀ n ∈ ["Common", "Shop"],
      Script.Dialect.ofPath (notePath n) = .ofPath (notePath "Common") := by decide +kernel
  intro n hname
  rw [hdialect n hname]
  constructor
  · decide +kernel
  · decide +kernel

/-- A step up out of a directory that is not there yet fails in a dry run, which sees no catalogs
then. A run makes the directory on the way to the first catalog, and finds the others. -/
theorem noteProject_disagrees :
    noteProject.WellFormed ∧ noteProject.Rooted ∧
      (noteSettings "ghost/../locales").CatalogsOutside noteProject ∧
      (∀ locale ∈ ["en", "de"], Path.IsName locale) ∧
      ∃ done dry, migrate {} (noteSettings "ghost/../locales") noteProject = .ok done ∧
        (∀ r ∈ done.report.namespaces, r.AllWritten) ∧
        migrate {} (noteSettings "ghost/../locales").dry noteProject = .ok dry ∧
        dry.report.namespaces.map (·.files) ≠ done.report.namespaces.map (·.files) := by
  have hfacts := noteFacts "ghost/../locales" (by simp)
  have hmissing : ∀ n ∈ ["Common", "Shop"], ∀ path ∈
      (noteSettings "ghost/../locales").store.paths n, noteProject.has path = false := by
    decide +kernel
  obtain ⟨done, message, hdone, hwritten, hstatuses⟩ :=
    migrate_noteProject (fun path => Script.parse (.ofPath path)) parse_note hfacts
  obtain ⟨dry, hdry, hstatuses'⟩ :=
    migrate_noteProject_dry (fun path => Script.parse (.ofPath path)) parse_note hfacts hmissing
  refine ⟨wellFormed_noteProject, rooted_noteProject, catalogsOutside_noteProject hfacts,
    by decide, done, dry, hdone, hwritten, hdry, ?_⟩
  intro hfiles
  have hsame : statuses dry = statuses done := by
    have hmap := congrArg (List.map (List.map (·.status))) hfiles
    rwa [List.map_map, List.map_map] at hmap
  rw [hstatuses, hstatuses'] at hsame
  cases hsame

theorem climbable_noteProject : noteProject.Climbable "src/../locales" := by
  intro front back hparts
  have hparts' : Path.parts "src/../locales" = [.name "src", .up, .name "locales"] := by
    decide
  rw [hparts'] at hparts
  rcases front with _ | ⟨first, _ | ⟨second, front⟩⟩
  · cases hparts
  · cases hparts
    exact ⟨[], rfl⟩
  · have hmem : Path.Part.up ∈ [Path.Part.name "locales"] := by
      rw [(List.cons.inj (List.cons.inj hparts).2).2]
      exact List.mem_append_right _ List.mem_cons_self
    cases List.mem_singleton.mp hmem

/-- A run that goes up out of a directory that is there, past a namespace that is blocked. -/
theorem noteProject_agrees :
    ∃ done dry, migrate {} (noteSettings "src/../locales") noteProject = .ok done ∧
      migrate {} (noteSettings "src/../locales").dry noteProject = .ok dry ∧
      dry.workspace = noteProject ∧
      dry.report.namespaces = done.report.namespaces.map (·.asPlanned) := by
  have hfacts := noteFacts "src/../locales" (by simp)
  obtain ⟨done, message, hdone, hwritten, -⟩ :=
    migrate_noteProject (fun path => Script.parse (.ofPath path)) parse_note hfacts
  obtain ⟨hunchanged, hagrees⟩ := dryRun_agrees (e := {}) (s := noteSettings "src/../locales")
    Writer.mayFail_replace rfl wellFormed_noteProject rooted_noteProject
    (catalogsOutside_noteProject hfacts) (by decide) climbable_noteProject
  obtain ⟨dry, hdry, hreports, -⟩ := hagrees done hdone hwritten
  exact ⟨done, dry, hdone, hdry, hunchanged dry hdry, hreports⟩

end Run

end Phrasebook
