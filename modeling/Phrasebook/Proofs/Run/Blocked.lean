import Phrasebook.Proofs.Catalog.Loading
import Phrasebook.Proofs.Run.Project

/-!
What becomes of a namespace with a catalog that cannot be used.

Nothing is written in its turn. A file that could be migrated has failed, and any other file is
reported as if there were nothing wrong with the catalogs.
-/

namespace Phrasebook.Run

open Disk (Location)

/-- The report of a file that is not written: there is nothing to write, or a catalog blocks it. -/
def heldBack (s : Settings) (namespaceName : String) (cause : Catalog.LoadError) (path : String) :
    Except FileError Component.Outcome → FileReport
  | .error failure =>
      ⟨path, display s.componentsRoot path, .failed (failure.message path), [], false⟩
  | .ok (.skipped reason diagnostics) =>
      ⟨path, display s.componentsRoot path, .skipped reason, diagnostics, false⟩
  | .ok (.migrated m) =>
      ⟨path, display s.componentsRoot path,
        .failed ((FileError.blocked namespaceName cause).message path), m.diagnostics, false⟩

theorem path_heldBack (s : Settings) (namespaceName : String) (cause : Catalog.LoadError)
    (path : String) (result : Except FileError Component.Outcome) :
    (heldBack s namespaceName cause path result).path = path := by
  rcases result with failure | ⟨reason, diagnostics⟩ | m <;> rfl

theorem map_path_heldBack (s : Settings) (namespaceName : String) (cause : Catalog.LoadError)
    (files : List String) (result : String → Except FileError Component.Outcome) :
    (files.map fun path => heldBack s namespaceName cause path (result path)).map (·.path) =
      files := by
  rw [List.map_map]
  exact (List.map_congr_left fun path _ => path_heldBack ..).trans (List.map_id files)

section

variable {e : Engine} {s : Settings} {namespaceName : String} {w : Workspace}

theorem advance_eq_heldBack {blocked : Option Catalog.LoadError} {cause : Catalog.LoadError}
    {result : Except FileError Component.Outcome}
    (h : needsCatalog result = true → blocked = some cause) (p : Progress) (path : String) :
    advance e s namespaceName blocked p (path, result) =
      { p with files := p.files ++ [heldBack s namespaceName cause path result] } := by
  rcases result with failure | ⟨reason, diagnostics⟩ | m
  · rfl
  · rfl
  · obtain rfl := h rfl
    rfl

theorem foldl_advance_eq_heldBack {blocked : Option Catalog.LoadError} {cause : Catalog.LoadError}
    {outcomes : List (String × Except FileError Component.Outcome)}
    (h : ∀ o ∈ outcomes, needsCatalog o.2 = true → blocked = some cause) (p : Progress) :
    outcomes.foldl (advance e s namespaceName blocked) p =
      { p with
        files := p.files ++ outcomes.map fun o => heldBack s namespaceName cause o.1 o.2 } := by
  induction outcomes generalizing p with
  | nil => simp
  | cons file rest ih =>
      obtain ⟨path, result⟩ := file
      rw [List.foldl_cons, advance_eq_heldBack (h _ List.mem_cons_self),
        ih fun o ho => h o (List.mem_cons_of_mem _ ho)]
      simp

/-- The turn of a namespace with catalogs that cannot be used. -/
theorem migrateFiles_of_blocked {cause : Catalog.LoadError}
    (h : s.store.loadExisting w namespaceName = .error cause) (found : Scan.Found) :
    migrateFiles e s namespaceName found w =
      (w, reported namespaceName found
        { workspace := w
          files := found.files.map fun path =>
            heldBack s namespaceName cause path (outcome e s namespaceName w path) }) := by
  have hblocked : ∀ o ∈ found.files.map (fun path => (path, outcome e s namespaceName w path)),
      needsCatalog o.2 = true →
        blockedBy (loadedFor e s namespaceName w found.files) = some cause := by
    intro o ho hneed
    obtain ⟨path, hpath, rfl⟩ := List.mem_map.mp ho
    rw [loadedFor_of_needsCatalog hpath hneed, h]
    rfl
  have hprogress : progress e s namespaceName
      (blockedBy (loadedFor e s namespaceName w found.files)) w found.files =
        { workspace := w
          files := found.files.map fun path =>
            heldBack s namespaceName cause path (outcome e s namespaceName w path) } := by
    rw [progress, foldl_advance_eq_heldBack hblocked, List.map_map]
    rfl
  rw [migrateFiles_eq, hprogress]
  exact conclude_of_fresh_eq_nil rfl _

/-- A file that cannot be migrated has one report, whatever the catalogs are like. -/
theorem heldBack_mem_migrateFiles {found : Scan.Found} {path : String} (hpath : path ∈ found.files)
    (hneed : needsCatalog (outcome e s namespaceName w path) = false)
    (cause : Catalog.LoadError) :
    heldBack s namespaceName cause path (outcome e s namespaceName w path) ∈
      (migrateFiles e s namespaceName found w).2.files := by
  obtain ⟨front, back, hsplit⟩ := List.append_of_mem hpath
  rw [files_migrateFiles]
  generalize blockedBy (loadedFor e s namespaceName w found.files) = blocked
  rw [progress, hsplit, List.map_append, List.foldl_append, List.map_cons, List.foldl_cons]
  refine mem_files_foldl blocked _ ?_
  have hvacuous : needsCatalog (outcome e s namespaceName w path) = true →
      blocked = some cause := by
    rw [hneed]
    simp
  rw [advance_eq_heldBack hvacuous]
  exact List.mem_append_right _ (List.mem_singleton_self _)

theorem needsCatalog_of_migration?_eq_none {path : String}
    (h : migration? e s namespaceName w path = none) :
    needsCatalog (outcome e s namespaceName w path) = false := by
  rcases houtcome : outcome e s namespaceName w path with failure | ⟨reason, diagnostics⟩ | m
  · rfl
  · rfl
  · rw [migration?_of_outcome houtcome] at h
    cases h

/-- A file that could be migrated has failed, if it is held back. -/
theorem exists_status_heldBack {path : String} {m : Component.Migrated}
    (h : migration? e s namespaceName w path = some m) (cause : Catalog.LoadError) :
    ∃ text, (heldBack s namespaceName cause path (outcome e s namespaceName w path)).status =
      .failed text := by
  rcases houtcome : outcome e s namespaceName w path with failure | ⟨reason, diagnostics⟩ | m'
  · exact ⟨_, rfl⟩
  · obtain ⟨source, hcontent, htransform⟩ := exists_of_migration? h
    unfold outcome at houtcome
    split at houtcome
    · cases houtcome
    rename_i source' hsource
    rw [Workspace.contentAt_of_readText hsource] at hcontent
    cases hcontent
    rw [htransform] at houtcome
    cases houtcome
  · exact ⟨_, rfl⟩

end

section

variable {e : Engine} {s : Settings} {w last current next : Workspace} {n : Scan.Namespace}
  {r : NamespaceReport}

/-- The turn of a namespace with catalogs that cannot be used when the run starts. -/
theorem Turn.blocked (h : Turn e s w last n current next r) (hw : w.WellFormed)
    (hrooted : w.Rooted) (hbad : ∃ cause, s.store.loadExisting w n.name = .error cause) :
    ∃ cause, next = current ∧ r.name = n.name ∧ r.written = [] ∧ r.keys = 0 ∧
      r.files = (scanned s w n.name).map fun path =>
        heldBack s n.name cause path (outcome e s n.name w path) := by
  obtain ⟨written, hchanges, hfree⟩ := h.before
  obtain ⟨cause, hcause⟩ := Catalog.Store.loadExisting_eq_error_of_changes hchanges hw
    (fun loc hloc hmem => hfree loc hmem (Or.inr hloc)) hbad
  have hturn := h.turn
  rw [migrateFiles_of_blocked hcause, h.found] at hturn
  cases hturn
  refine ⟨cause, rfl, rfl, rfl, rfl, List.map_congr_left fun path hpath => ?_⟩
  rw [outcome_congr (h.readText_eq hw hrooted hpath)]

/-- What belongs to a namespace stays as it is, if its turn changes nothing. -/
theorem Turn.content?_eq (h : Turn e s w last n current current r) (hw : w.WellFormed)
    {loc : Location} (hloc : Owns s w n.name loc) :
    last.disk.content? loc = w.disk.content? loc := by
  obtain ⟨written, hchanges, hfree⟩ := h.before
  obtain ⟨written', hchanges', hfree'⟩ := h.after
  rw [hchanges'.disk.content?_eq (hchanges.wellFormed hw).disk fun hmem => hfree' loc hmem hloc,
    hchanges.disk.content?_eq hw.disk fun hmem => hfree loc hmem hloc]

theorem Turn.heldBack_mem (h : Turn e s w last n current next r) (hw : w.WellFormed)
    (hrooted : w.Rooted) {path : String} (hpath : path ∈ scanned s w n.name)
    (hneed : needsCatalog (outcome e s n.name w path) = false) (cause : Catalog.LoadError) :
    heldBack s n.name cause path (outcome e s n.name w path) ∈ r.files := by
  have houtcome : outcome e s n.name current path = outcome e s n.name w path :=
    outcome_congr (h.readText_eq hw hrooted hpath)
  have hmem := heldBack_mem_migrateFiles (e := e) (h.found ▸ hpath) (houtcome ▸ hneed) cause
  rwa [h.turn, houtcome] at hmem

end

end Phrasebook.Run
