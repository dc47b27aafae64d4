import Phrasebook.Proofs.Catalog.Loading
import Phrasebook.Proofs.Disk.Trail
import Phrasebook.Proofs.Run.Project

/-!
The turn of a namespace in two workspaces.

If the files and catalogs of a namespace read the same in both, its turn gives one report, and
leaves them the same in both. It does not matter which directories have to be made on the way.
Whatever a turn does, the workspace only gains what lies above the files and catalogs.
-/

namespace Phrasebook

open Disk (Location)
open Workspace (Paired)

namespace Catalog

variable {shared exact : Location → Prop} {paths : List String} {first second : Workspace}

theorem load_paired (h : Paired shared exact paths first second) {path : String}
    (hpath : path ∈ paths) : load second path = load first path := by
  rcases h.node_cases (h.tracks path hpath) (h.counts path hpath) with
    ⟨n, n', hnode, hnode', hcontent⟩ | ⟨e, hnode, hnode'⟩ | ⟨-, e, e', hnode, hnode'⟩
  · rw [load, load, Workspace.readText_eq_of_node hnode hnode' hcontent]
    simp only [Workspace.has, hnode, hnode']
  · simp only [load, Workspace.has, hnode, hnode', Bool.not_false, if_true]
  · simp only [load, Workspace.has, hnode, hnode', Bool.not_false, if_true]

namespace Store

theorem loadExisting_paired {s : Store} {namespaceName : String}
    (h : Paired shared exact paths first second)
    (hpaths : ∀ path ∈ s.paths namespaceName, path ∈ paths) :
    s.loadExisting second namespaceName = s.loadExisting first namespaceName :=
  loadExisting_congr fun _ hlocale => load_paired h (hpaths _ (List.mem_map_of_mem hlocale))

theorem saveLocales_paired {s : Store} {namespaceName : String}
    (h : Paired shared exact paths first second) {catalogs : List (String × Json.Fields)}
    (hpaths : ∀ c ∈ catalogs, s.path namespaceName c.1 ∈ paths) :
    ∃ first' second' result,
      s.saveLocales Workspace.replace namespaceName first catalogs = (first', result) ∧
      s.saveLocales Workspace.replace namespaceName second catalogs = (second', result) ∧
      Paired shared exact paths first' second' := by
  induction catalogs generalizing first second with
  | nil => exact ⟨first, second, .ok [], rfl, rfl, h⟩
  | cons catalog rest ih =>
      obtain ⟨locale, fields⟩ := catalog
      obtain ⟨next, next', failure, hfirst, hsecond, hnext⟩ :=
        h.exists_replace (hpaths _ List.mem_cons_self) (.text (toText fields))
      cases failure with
      | some e =>
          refine ⟨next, next', .error e, ?_, ?_, hnext⟩
          · simp only [saveLocales, save, hfirst]
          · simp only [saveLocales, save, hsecond]
      | none =>
          obtain ⟨last, last', result, hrest, hrest', hlast⟩ :=
            ih hnext fun c hc => hpaths c (List.mem_cons_of_mem _ hc)
          simp only [saveLocales, save, hfirst, hrest, hsecond, hrest']
          exact ⟨last, last', _, rfl, rfl, hlast⟩

theorem grows_saveLocales_replace {s : Store} {w : Workspace} (hw : w.WellFormed)
    {namespaceName : String} {catalogs : List (String × Json.Fields)}
    (hsteady : ∀ c ∈ catalogs, w.Steady (s.path namespaceName c.1)) :
    w.Grows (catalogs.map fun c => w.place (s.path namespaceName c.1))
      (s.saveLocales Workspace.replace namespaceName w catalogs).1 := by
  induction catalogs generalizing w with
  | nil => exact .refl hw
  | cons catalog rest ih =>
      obtain ⟨locale, fields⟩ := catalog
      have hgrows := Workspace.grows_replace hw (hsteady _ List.mem_cons_self)
        (.text (toText fields))
      rcases hsaved : Workspace.replace w (s.path namespaceName locale) (.text (toText fields)) with
        ⟨next, _ | e⟩
      · rw [hsaved] at hgrows
        have hrest := ih (hgrows.wellFormed hw)
          fun c hc => hgrows.steady (hsteady c (List.mem_cons_of_mem _ hc))
        rw [show next.place = w.place from funext hgrows.place_eq] at hrest
        simp only [saveLocales, save, hsaved]
        exact (hgrows.mono (by simp)).trans (hrest.mono (by simp))
      · rw [hsaved] at hgrows
        simp only [saveLocales, save, hsaved]
        exact hgrows.mono (by simp)

end Store

end Catalog

namespace Run

section

variable {e : Engine} {s : Settings} (hwrite : e.write = Workspace.replace)
  (happly : s.apply = true) {shared exact : Location → Prop} {paths : List String}
include hwrite happly

theorem advance_paired (namespaceName : String) (blocked : Option Catalog.LoadError) {p : Progress}
    {second : Workspace} (h : Paired shared exact paths p.workspace second) {path : String}
    (hpath : path ∈ paths) (result : Except FileError Component.Outcome) :
    ∃ next second', advance e s namespaceName blocked p (path, result) = next ∧
      advance e s namespaceName blocked { p with workspace := second } (path, result) =
        { next with workspace := second' } ∧
      Paired shared exact paths next.workspace second' := by
  rcases result with cause | ⟨reason, diagnostics⟩ | m
  · exact ⟨_, second, rfl, rfl, h⟩
  · exact ⟨_, second, rfl, rfl, h⟩
  rcases blocked with _ | cause
  · obtain ⟨first', second', failure, hfirst, hsecond, hnext⟩ :=
      h.exists_replace hpath (.text m.code)
    simp only [advance, place, happly, if_true, hwrite, hfirst, hsecond]
    cases failure with
    | none => exact ⟨_, second', rfl, rfl, hnext⟩
    | some cause => exact ⟨_, second', rfl, rfl, hnext⟩
  · exact ⟨_, second, rfl, rfl, h⟩

theorem foldl_advance_paired (namespaceName : String) (blocked : Option Catalog.LoadError)
    {outcomes : List (String × Except FileError Component.Outcome)} {p : Progress}
    {second : Workspace} (h : Paired shared exact paths p.workspace second)
    (hpaths : ∀ o ∈ outcomes, o.1 ∈ paths) :
    ∃ last second', outcomes.foldl (advance e s namespaceName blocked) p = last ∧
      outcomes.foldl (advance e s namespaceName blocked) { p with workspace := second } =
        { last with workspace := second' } ∧
      Paired shared exact paths last.workspace second' := by
  induction outcomes generalizing p second with
  | nil => exact ⟨p, second, rfl, rfl, h⟩
  | cons file rest ih =>
      obtain ⟨path, result⟩ := file
      obtain ⟨next, second', hfirst, hsecond, hnext⟩ := advance_paired hwrite happly namespaceName
        blocked h (hpaths _ List.mem_cons_self) result
      obtain ⟨last, second'', hfirst', hsecond', hlast⟩ :=
        ih hnext fun o ho => hpaths o (List.mem_cons_of_mem _ ho)
      refine ⟨last, second'', ?_, ?_, hlast⟩
      · rw [List.foldl_cons, hfirst, hfirst']
      · rw [List.foldl_cons, hsecond, hsecond']

theorem conclude_paired {n : NamespaceReport} {p : Progress} {second : Workspace}
    (h : Paired shared exact paths p.workspace second) {loaded : Workspace}
    {existing : Catalog.Existing}
    (hloaded : s.store.loadExisting loaded n.name = .ok existing)
    (hcatalogs : ∀ path ∈ s.store.paths n.name, path ∈ paths) :
    ∃ first' second' r, conclude e s n p (.ok (some existing)) = (first', r) ∧
      conclude e s n { p with workspace := second } (.ok (some existing)) = (second', r) ∧
      Paired shared exact paths first' second' := by
  by_cases hfresh : p.fresh = []
  · exact ⟨_, second, n, conclude_of_fresh_eq_nil hfresh _,
      conclude_of_fresh_eq_nil (p := { p with workspace := second }) hfresh _, h⟩
  have hupdated := Catalog.Store.map_path_updated hloaded e.translate p.fresh
  have hpaths : ∀ c ∈ s.store.updated e.translate existing p.fresh,
      s.store.path n.name c.1 ∈ paths :=
    fun c hc => hcatalogs _ (hupdated ▸ List.mem_map_of_mem hc)
  obtain ⟨first', second', result, hfirst, hsecond, hlast⟩ :=
    Catalog.Store.saveLocales_paired h hpaths
  have hsome : p.fresh.isEmpty = false := List.isEmpty_eq_false_iff.mpr hfresh
  simp only [conclude, hsome, Bool.false_eq_true, if_false, finish, happly, if_true, hwrite,
    Catalog.Store.saveNamespace, hfirst, hsecond]
  cases result with
  | error cause => exact ⟨first', second', _, rfl, rfl, hlast⟩
  | ok written => exact ⟨first', second', _, rfl, rfl, hlast⟩

/-- The turn of a namespace gives one report in both workspaces, if its files are there. -/
theorem migrateFiles_paired {first second : Workspace} {namespaceName : String}
    {found : Scan.Found} (h : Paired shared exact paths first second)
    (hfiles : ∀ path ∈ found.files, path ∈ paths)
    (hthere : ∀ path ∈ found.files, first.disk.get? (first.place path) ≠ none)
    (hcatalogs : ∀ path ∈ s.store.paths namespaceName, path ∈ paths) :
    ∃ first' second' r, migrateFiles e s namespaceName found first = (first', r) ∧
      migrateFiles e s namespaceName found second = (second', r) ∧
      Paired shared exact paths first' second' := by
  have houtcomes : (found.files.map fun path => (path, outcome e s namespaceName second path)) =
      found.files.map fun path => (path, outcome e s namespaceName first path) := by
    refine List.map_congr_left fun path hpath => congrArg (Prod.mk path) (outcome_congr ?_)
    exact h.readText_eq (h.tracks path (hfiles path hpath)) (h.counts path (hfiles path hpath))
      (hthere path hpath)
  have hloaded : loadedFor e s namespaceName second found.files =
      loadedFor e s namespaceName first found.files := by
    rw [loadedFor, loadedFor, houtcomes, Catalog.Store.loadExisting_paired h hcatalogs]
  have hpaths : ∀ o ∈ found.files.map fun path => (path, outcome e s namespaceName first path),
      o.1 ∈ paths := by
    intro o ho
    obtain ⟨path, hpath, rfl⟩ := List.mem_map.mp ho
    exact hfiles path hpath
  obtain ⟨p, middle, hfirst, hsecond, hp⟩ := foldl_advance_paired hwrite happly namespaceName
    (blockedBy (loadedFor e s namespaceName first found.files)) (p := { workspace := first }) h
    hpaths
  have hprogress : progress e s namespaceName (blockedBy (loadedFor e s namespaceName first
      found.files)) first found.files = p := hfirst
  have hprogress' : progress e s namespaceName (blockedBy (loadedFor e s namespaceName first
      found.files)) second found.files = { p with workspace := middle } := by
    rw [progress, houtcomes]
    exact hsecond
  rw [migrateFiles_eq, migrateFiles_eq, hloaded, hprogress, hprogress']
  rcases hload : loadedFor e s namespaceName first found.files with cause | _ | existing
  · exact ⟨p.workspace, middle, _, rfl, rfl, hp⟩
  · exact ⟨p.workspace, middle, _, rfl, rfl, hp⟩
  · exact conclude_paired hwrite happly (n := reported namespaceName found p) hp
      (loadExisting_of_loadedFor hload) hcatalogs

theorem grows_advance (namespaceName : String) (blocked : Option Catalog.LoadError) {p : Progress}
    (hp : p.workspace.WellFormed) {path : String} (hsteady : p.workspace.Steady path)
    (result : Except FileError Component.Outcome) :
    p.workspace.Grows [p.workspace.place path]
      (advance e s namespaceName blocked p (path, result)).workspace := by
  rcases result with cause | ⟨reason, diagnostics⟩ | m
  · exact .refl hp
  · exact .refl hp
  rcases blocked with _ | cause
  · have hgrows := Workspace.grows_replace hp hsteady (.text m.code)
    rcases hresult : Workspace.replace p.workspace path (.text m.code) with ⟨w', _ | cause⟩
    · rw [hresult] at hgrows
      simpa only [advance, place, happly, if_true, hwrite, hresult, Option.map_none] using hgrows
    · rw [hresult] at hgrows
      simpa only [advance, place, happly, if_true, hwrite, hresult, Option.map_some] using hgrows
  · exact .refl hp

theorem grows_foldl_advance (namespaceName : String) (blocked : Option Catalog.LoadError)
    {outcomes : List (String × Except FileError Component.Outcome)} {p : Progress}
    (hp : p.workspace.WellFormed) (hsteady : ∀ o ∈ outcomes, p.workspace.Steady o.1) :
    p.workspace.Grows (outcomes.map fun o => p.workspace.place o.1)
      (outcomes.foldl (advance e s namespaceName blocked) p).workspace := by
  induction outcomes generalizing p with
  | nil => exact .refl hp
  | cons file rest ih =>
      obtain ⟨path, result⟩ := file
      have hgrows := grows_advance hwrite happly namespaceName blocked hp
        (hsteady _ List.mem_cons_self) result
      have hrest := ih (hgrows.wellFormed hp)
        fun o ho => hgrows.steady (hsteady o (List.mem_cons_of_mem _ ho))
      rw [funext hgrows.place_eq] at hrest
      exact (hgrows.mono (by simp)).trans (hrest.mono (by simp))

theorem grows_conclude {n : NamespaceReport} {p : Progress} (hp : p.workspace.WellFormed)
    {loaded : Workspace} {existing : Catalog.Existing}
    (hloaded : s.store.loadExisting loaded n.name = .ok existing)
    (hcatalogs : ∀ path ∈ s.store.paths n.name, p.workspace.Steady path) :
    p.workspace.Grows (s.store.places p.workspace n.name)
      (conclude e s n p (.ok (some existing))).1 := by
  by_cases hfresh : p.fresh = []
  · rw [conclude_of_fresh_eq_nil hfresh]
    exact .refl hp
  have hupdated := Catalog.Store.map_path_updated hloaded e.translate p.fresh
  have hsteady : ∀ c ∈ s.store.updated e.translate existing p.fresh,
      p.workspace.Steady (s.store.path n.name c.1) :=
    fun c hc => hcatalogs _ (hupdated ▸ List.mem_map_of_mem hc)
  have hgrows := Catalog.Store.grows_saveLocales_replace hp hsteady
  rw [Catalog.Store.map_place_updated hloaded] at hgrows
  have hsome : p.fresh.isEmpty = false := List.isEmpty_eq_false_iff.mpr hfresh
  rcases hsaved : s.store.saveLocales Workspace.replace n.name p.workspace
    (s.store.updated e.translate existing p.fresh) with ⟨last, cause | written⟩
  · rw [hsaved] at hgrows
    simpa only [conclude, hsome, Bool.false_eq_true, if_false, finish, happly, if_true, hwrite,
      Catalog.Store.saveNamespace, hsaved] using hgrows
  · rw [hsaved] at hgrows
    simpa only [conclude, hsome, Bool.false_eq_true, if_false, finish, happly, if_true, hwrite,
      Catalog.Store.saveNamespace, hsaved] using hgrows

/-- Whatever fails, the turn of a namespace adds nothing but above its files and catalogs. -/
theorem grows_migrateFiles {w : Workspace} (hw : w.WellFormed) {namespaceName : String}
    {found : Scan.Found} (hfiles : ∀ path ∈ found.files, w.Steady path)
    (hcatalogs : ∀ path ∈ s.store.paths namespaceName, w.Steady path) :
    w.Grows (found.files.map w.place ++ s.store.places w namespaceName)
      (migrateFiles e s namespaceName found w).1 := by
  have hsteady : ∀ o ∈ found.files.map fun path => (path, outcome e s namespaceName w path),
      w.Steady o.1 := by
    intro o ho
    obtain ⟨path, hpath, rfl⟩ := List.mem_map.mp ho
    exact hfiles path hpath
  have hgrows := grows_foldl_advance hwrite happly namespaceName
    (blockedBy (loadedFor e s namespaceName w found.files)) (p := { workspace := w }) hw hsteady
  rw [List.map_map] at hgrows
  have hprogress : w.Grows (found.files.map w.place) (progress e s namespaceName
      (blockedBy (loadedFor e s namespaceName w found.files)) w found.files).workspace := hgrows
  rw [migrateFiles_eq]
  rcases hload : loadedFor e s namespaceName w found.files with cause | _ | existing
  · rw [hload] at hprogress
    exact hprogress.mono (by simp)
  · rw [hload] at hprogress
    exact hprogress.mono (by simp)
  · rw [hload] at hprogress
    have hlast := grows_conclude hwrite happly
      (n := reported namespaceName found (progress e s namespaceName
        (blockedBy (.ok (some existing))) w found.files)) (hprogress.wellFormed hw)
      (loadExisting_of_loadedFor hload) fun path hpath => hprogress.steady (hcatalogs path hpath)
    rw [Catalog.Store.places_eq_of_directory hprogress.directory] at hlast
    exact (hprogress.mono (by simp)).trans (hlast.mono (by simp [reported]))

end

end Run

end Phrasebook
