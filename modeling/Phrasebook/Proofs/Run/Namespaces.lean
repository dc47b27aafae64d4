import Phrasebook.Proofs.Catalog.Store
import Phrasebook.Proofs.Run.Files
import Phrasebook.Proofs.Scan.Files

/-!
What a run does to the namespaces of a project.

A namespace owns the files below its directory and its catalogs. Its own turn settles them, and no
other turn touches them. So what a turn leaves behind is what the run leaves behind.
-/

namespace Phrasebook.Run

open Disk (Location)

/-- Two workspaces in which the files at some paths hold the same. -/
def SameAt (paths : List String) (w w' : Workspace) : Prop :=
  ∀ path ∈ paths, w'.contentAt path = w.contentAt path

theorem SameAt.trans {paths : List String} {w w' w'' : Workspace} (h : SameAt paths w w')
    (h' : SameAt paths w' w'') : SameAt paths w w'' :=
  fun path hpath => (h' path hpath).trans (h path hpath)

theorem sameAt_of_changes {places : List Location} {paths : List String} {w w' : Workspace}
    (h : w.Changes places w') (hw : w.WellFormed)
    (hpaths : ∀ path ∈ paths, w.place path ∉ places) : SameAt paths w w' :=
  fun path hpath => h.contentAt_eq hw (hpaths path hpath)

/-- What a report says about catalogs that were saved, or could not be. -/
def Reports (r : NamespaceReport) : Except WriteError (List Catalog.Written) → Prop
  | .ok written => r.written = written ∧ r.catalogError = none
  | .error cause => r.written = [] ∧ r.catalogError = some cause.message

/-- The catalogs of a namespace hold what they held, if no text was extracted. Otherwise they hold
what came of saving the extracted texts and no others. -/
def CatalogsSettled (e : Engine) (s : Settings) (before after : Workspace)
    (r : NamespaceReport) : Prop :=
  if extracted e s r.name before r.files = [] then
    SameAt (s.store.paths r.name) before after ∧ Reports r (.ok [])
  else
    ∃ loaded existing ready saved result,
      SameAt (s.store.paths r.name) before loaded ∧
      s.store.loadExisting loaded r.name = .ok existing ∧
      ready.WellFormed ∧ SameAt (s.store.paths r.name) before ready ∧
      s.store.saveNamespace e.write e.translate ready r.name existing
          (Catalog.extend [] (extracted e s r.name before r.files)) = (saved, result) ∧
      SameAt (s.store.paths r.name) saved after ∧ Reports r result

/-- A namespace whose files were looked at, with each file and all catalogs settled. -/
structure NamespaceSettled (e : Engine) (s : Settings) (files : List String)
    (before after : Workspace) (r : NamespaceReport) : Prop where
  paths : r.files.map (·.path) = files
  file : ∀ f ∈ r.files, FileSettled e s r.name before after f
  catalogs : CatalogsSettled e s before after r

section

variable {e : Engine} {s : Settings} {files : List String} {w w' w'' : Workspace}
  {r : NamespaceReport}

theorem NamespaceSettled.congr_before (h : NamespaceSettled e s files w' w'' r)
    (hfiles : SameAt files w w') (hcatalogs : SameAt (s.store.paths r.name) w w') :
    NamespaceSettled e s files w w'' r := by
  have hsame : ∀ f ∈ r.files, w'.contentAt f.path = w.contentAt f.path := fun f hf =>
    hfiles f.path (h.paths ▸ List.mem_map_of_mem hf)
  refine ⟨h.paths, fun f hf => (h.file f hf).congr_before (hsame f hf), ?_⟩
  have hsettled := h.catalogs
  unfold CatalogsSettled at hsettled ⊢
  rw [extracted_congr hsame] at hsettled
  split at hsettled
  · rename_i hnone
    rw [if_pos hnone]
    exact ⟨hcatalogs.trans hsettled.1, hsettled.2⟩
  · rename_i hsome
    rw [if_neg hsome]
    obtain ⟨loaded, existing, ready, saved, result, hloaded, hexisting, hwf, hready, hrest⟩ :=
      hsettled
    exact ⟨loaded, existing, ready, saved, result, hcatalogs.trans hloaded, hexisting, hwf,
      hcatalogs.trans hready, hrest⟩

theorem NamespaceSettled.congr_after (h : NamespaceSettled e s files w w' r)
    (hfiles : SameAt files w' w'') (hcatalogs : SameAt (s.store.paths r.name) w' w'') :
    NamespaceSettled e s files w w'' r := by
  refine ⟨h.paths, fun f hf => (h.file f hf).congr_after
    (hfiles f.path (h.paths ▸ List.mem_map_of_mem hf)), ?_⟩
  have hsettled := h.catalogs
  unfold CatalogsSettled at hsettled ⊢
  split at hsettled
  · rename_i hnone
    rw [if_pos hnone]
    exact ⟨hsettled.1.trans hcatalogs, hsettled.2⟩
  · rename_i hsome
    rw [if_neg hsome]
    obtain ⟨loaded, existing, ready, saved, result, hloaded, hexisting, hwf, hready, hsaved,
      hafter, hreports⟩ := hsettled
    exact ⟨loaded, existing, ready, saved, result, hloaded, hexisting, hwf, hready, hsaved,
      hafter.trans hcatalogs, hreports⟩

end

/-- The files of a namespace, one after the other. -/
def progress (e : Engine) (s : Settings) (namespaceName : String)
    (blocked : Option Catalog.LoadError) (w : Workspace) (files : List String) : Progress :=
  (files.map fun path => (path, outcome e s namespaceName w path)).foldl
    (advance e s namespaceName blocked) { workspace := w }

/-- The catalogs that the files of a namespace ask for. -/
def loadedFor (e : Engine) (s : Settings) (namespaceName : String) (w : Workspace)
    (files : List String) : Except Catalog.LoadError (Option Catalog.Existing) :=
  if (files.map fun path => (path, outcome e s namespaceName w path)).any
      (fun o => needsCatalog o.2) then
    (s.store.loadExisting w namespaceName).map some
  else .ok none

theorem loadedFor_of_needsCatalog {e : Engine} {s : Settings} {namespaceName path : String}
    {w : Workspace} {files : List String} (hpath : path ∈ files)
    (hneed : needsCatalog (outcome e s namespaceName w path) = true) :
    loadedFor e s namespaceName w files = (s.store.loadExisting w namespaceName).map some := by
  have hany : (files.map fun path => (path, outcome e s namespaceName w path)).any
      (fun o => needsCatalog o.2) = true :=
    List.any_eq_true.mpr ⟨_, List.mem_map_of_mem hpath, hneed⟩
  rw [loadedFor, if_pos hany]

theorem loadExisting_of_loadedFor {e : Engine} {s : Settings} {namespaceName : String}
    {w : Workspace} {files : List String} {existing : Catalog.Existing}
    (h : loadedFor e s namespaceName w files = .ok (some existing)) :
    s.store.loadExisting w namespaceName = .ok existing := by
  unfold loadedFor at h
  split at h
  · obtain ⟨existing', hexisting, heq⟩ := exists_of_map_eq_ok h
    obtain rfl := Option.some.inj heq
    exact hexisting
  · cases h

def blockedBy : Except Catalog.LoadError (Option Catalog.Existing) → Option Catalog.LoadError
  | .error cause => some cause
  | .ok _ => none

def reported (namespaceName : String) (found : Scan.Found) (p : Progress) : NamespaceReport :=
  { name := namespaceName, files := p.files, keys := p.keys,
    inaccessible := found.inaccessible.length }

/-- How the turn of a namespace ends, after its files. -/
def conclude (e : Engine) (s : Settings) (n : NamespaceReport) (p : Progress) :
    Except Catalog.LoadError (Option Catalog.Existing) → Workspace × NamespaceReport
  | .ok (some existing) =>
      if p.fresh.isEmpty then (p.workspace, n) else finish e s n existing p.fresh p.workspace
  | _ => (p.workspace, n)

theorem conclude_of_fresh_eq_nil {e : Engine} {s : Settings} {n : NamespaceReport} {p : Progress}
    (h : p.fresh = []) (loaded : Except Catalog.LoadError (Option Catalog.Existing)) :
    conclude e s n p loaded = (p.workspace, n) := by
  rcases loaded with cause | _ | existing
  · rfl
  · rfl
  · exact if_pos (List.isEmpty_iff.mpr h)

theorem migrateFiles_eq (e : Engine) (s : Settings) (namespaceName : String)
    (found : Scan.Found) (w : Workspace) :
    migrateFiles e s namespaceName found w =
      conclude e s
        (reported namespaceName found (progress e s namespaceName
          (blockedBy (loadedFor e s namespaceName w found.files)) w found.files))
        (progress e s namespaceName (blockedBy (loadedFor e s namespaceName w found.files)) w
          found.files)
        (loadedFor e s namespaceName w found.files) :=
  rfl

theorem files_migrateFiles (e : Engine) (s : Settings) (namespaceName : String)
    (found : Scan.Found) (w : Workspace) :
    (migrateFiles e s namespaceName found w).2.files =
      (progress e s namespaceName (blockedBy (loadedFor e s namespaceName w found.files)) w
        found.files).files := by
  rw [migrateFiles_eq]
  unfold conclude
  split
  · split
    · rfl
    · unfold finish
      split
      · split <;> rfl
      · rfl
  · rfl

theorem name_migrateFiles (e : Engine) (s : Settings) (namespaceName : String)
    (found : Scan.Found) (w : Workspace) :
    (migrateFiles e s namespaceName found w).2.name = namespaceName := by
  rw [migrateFiles_eq]
  unfold conclude
  split
  · split
    · rfl
    · unfold finish
      split
      · split <;> rfl
      · rfl
  · rfl

/-- A namespace in which there is nothing to do: files that could be migrated are only there if the
catalogs cannot be used. -/
def Idle (e : Engine) (s : Settings) (namespaceName : String) (w : Workspace)
    (files : List String) : Prop :=
  ∀ path ∈ files, needsCatalog (outcome e s namespaceName w path) = true →
    ∃ cause, s.store.loadExisting w namespaceName = .error cause

theorem idle_or_loaded (e : Engine) (s : Settings) (namespaceName : String) (w : Workspace)
    (files : List String) :
    Idle e s namespaceName w files ∨
      ∃ existing, s.store.loadExisting w namespaceName = .ok existing ∧
        loadedFor e s namespaceName w files = .ok (some existing) := by
  unfold loadedFor
  split
  · cases hload : s.store.loadExisting w namespaceName with
    | error cause => exact Or.inl fun _ _ _ => ⟨cause, hload⟩
    | ok existing => exact Or.inr ⟨existing, rfl, rfl⟩
  · rename_i hneeds
    refine Or.inl fun path hpath hneed => absurd ?_ hneeds
    exact List.any_eq_true.mpr ⟨_, List.mem_map_of_mem hpath, hneed⟩

/-- A file that is blocked or not migrated is reported, and nothing else happens. -/
theorem advance_of_blocked (e : Engine) (s : Settings) (namespaceName : String)
    {blocked : Option Catalog.LoadError} {result : Except FileError Component.Outcome}
    (h : needsCatalog result = true → blocked.isSome = true) (p : Progress) (path : String) :
    ∃ report : FileReport, report.path = path ∧ report.status.isTranslated = false ∧
      advance e s namespaceName blocked p (path, result) =
        { p with files := p.files ++ [report] } := by
  rcases result with cause | ⟨reason, diagnostics⟩ | m
  · exact ⟨_, rfl, rfl, rfl⟩
  · exact ⟨_, rfl, rfl, rfl⟩
  · obtain ⟨cause, rfl⟩ := Option.isSome_iff_exists.mp (h rfl)
    exact ⟨_, rfl, rfl, rfl⟩

theorem Idle.isSome_blockedBy {e : Engine} {s : Settings} {namespaceName : String} {w : Workspace}
    {files : List String} (h : Idle e s namespaceName w files) {path : String}
    (hpath : path ∈ files) (hneed : needsCatalog (outcome e s namespaceName w path) = true) :
    (blockedBy (loadedFor e s namespaceName w files)).isSome = true := by
  obtain ⟨cause, hcause⟩ := h path hpath hneed
  rw [loadedFor_of_needsCatalog hpath hneed, hcause]
  rfl

theorem Idle.progress_eq {e : Engine} {s : Settings} {namespaceName : String} {w : Workspace}
    {files : List String} (h : Idle e s namespaceName w files) :
    ∃ reports : List FileReport, reports.map (·.path) = files ∧
      (∀ f ∈ reports, f.status.isTranslated = false) ∧
      progress e s namespaceName (blockedBy (loadedFor e s namespaceName w files)) w files =
        { workspace := w, files := reports } := by
  have hblocked : ∀ path ∈ files, needsCatalog (outcome e s namespaceName w path) = true →
      (blockedBy (loadedFor e s namespaceName w files)).isSome = true :=
    fun _ hpath hneed => h.isSome_blockedBy hpath hneed
  generalize blockedBy (loadedFor e s namespaceName w files) = blocked at hblocked
  -- Along the files, nothing but the list of reports grows.
  have hfold : ∀ p : Progress, ∃ reports : List FileReport, reports.map (·.path) = files ∧
      (∀ f ∈ reports, f.status.isTranslated = false) ∧
      (files.map fun path => (path, outcome e s namespaceName w path)).foldl
        (advance e s namespaceName blocked) p = { p with files := p.files ++ reports } := by
    clear h
    induction files with
    | nil => exact fun p => ⟨[], rfl, by simp, by simp⟩
    | cons path files ih =>
        intro p
        obtain ⟨report, hpath, hreport, hadvance⟩ := advance_of_blocked e s namespaceName
          (hblocked path List.mem_cons_self) p path
        obtain ⟨reports, hpaths, hreports, hrest⟩ := ih (fun path hpath =>
          hblocked path (List.mem_cons_of_mem _ hpath)) { p with files := p.files ++ [report] }
        refine ⟨report :: reports, by rw [List.map_cons, hpath, hpaths], ?_, ?_⟩
        · intro f hf
          rcases List.mem_cons.mp hf with rfl | hf
          · exact hreport
          · exact hreports f hf
        · rw [List.map_cons, List.foldl_cons, hadvance, hrest, List.append_assoc,
            List.singleton_append]
  obtain ⟨reports, hpaths, hreports, hprogress⟩ := hfold { workspace := w }
  exact ⟨reports, hpaths, hreports, hprogress⟩

/-- The turn of a namespace without anything to do only reports the files. -/
theorem Idle.migrateFiles_eq {e : Engine} {s : Settings} {namespaceName : String} {w : Workspace}
    {found : Scan.Found} (h : Idle e s namespaceName w found.files) :
    ∃ r : NamespaceReport, r.name = namespaceName ∧ r.files.map (·.path) = found.files ∧
      (∀ f ∈ r.files, f.status.isTranslated = false) ∧ Reports r (.ok []) ∧
      migrateFiles e s namespaceName found w = (w, r) := by
  obtain ⟨reports, hpaths, hreports, hprogress⟩ := h.progress_eq
  refine ⟨reported namespaceName found { workspace := w, files := reports }, rfl, hpaths, hreports,
    ⟨rfl, rfl⟩, ?_⟩
  rw [Run.migrateFiles_eq, hprogress]
  exact conclude_of_fresh_eq_nil rfl _

/-- The turn of a namespace ends after its files, if these gave no text, and else with its
catalogs. -/
theorem migrateFiles_cases (e : Engine) (s : Settings) (namespaceName : String)
    (found : Scan.Found) (w : Workspace) :
    ∃ blocked n, n.name = namespaceName ∧
      n.files = (progress e s namespaceName blocked w found.files).files ∧
      Reports n (.ok []) ∧
      ((progress e s namespaceName blocked w found.files).fresh = [] ∧
          migrateFiles e s namespaceName found w =
            ((progress e s namespaceName blocked w found.files).workspace, n) ∨
        ∃ existing, s.store.loadExisting w namespaceName = .ok existing ∧
          (progress e s namespaceName blocked w found.files).fresh ≠ [] ∧
          migrateFiles e s namespaceName found w =
            finish e s n existing (progress e s namespaceName blocked w found.files).fresh
              (progress e s namespaceName blocked w found.files).workspace) := by
  refine ⟨blockedBy (loadedFor e s namespaceName w found.files), reported namespaceName found
    (progress e s namespaceName (blockedBy (loadedFor e s namespaceName w found.files)) w
      found.files), rfl, rfl, ⟨rfl, rfl⟩, ?_⟩
  rcases idle_or_loaded e s namespaceName w found.files with hidle | ⟨existing, hexisting, hload⟩
  · obtain ⟨reports, -, -, hprogress⟩ := hidle.progress_eq
    rw [migrateFiles_eq, hprogress]
    exact Or.inl ⟨rfl, conclude_of_fresh_eq_nil rfl _⟩
  · rw [migrateFiles_eq, hload, conclude]
    by_cases hfresh :
        (progress e s namespaceName (blockedBy (.ok (some existing))) w found.files).fresh = []
    · exact Or.inl ⟨hfresh, if_pos (List.isEmpty_iff.mpr hfresh)⟩
    · exact Or.inr ⟨existing, hexisting, hfresh, if_neg (mt List.isEmpty_iff.mp hfresh)⟩

theorem finish_cases {e : Engine} {s : Settings} (happly : s.apply = true) {n r : NamespaceReport}
    (hn : Reports n (.ok [])) {existing : Catalog.Existing} {fresh : Json.Fields}
    {w w' : Workspace} (h : finish e s n existing fresh w = (w', r)) :
    r.name = n.name ∧ r.files = n.files ∧
      ∃ result, s.store.saveNamespace e.write e.translate w n.name existing fresh = (w', result) ∧
        Reports r result := by
  rw [finish, if_pos happly] at h
  split at h
  · rename_i saved written hsaved
    cases h
    exact ⟨rfl, rfl, .ok written, hsaved, rfl, hn.2⟩
  · rename_i saved cause hsaved
    cases h
    exact ⟨rfl, rfl, .error cause, hsaved, hn.1, rfl⟩

section

variable {e : Engine} {s : Settings} {w : Workspace} {files : List String} {p : Progress}
  {r : NamespaceReport}

theorem settled_of_fresh_eq_nil (hp : Progressed e s r.name w files p) (hfiles : r.files = p.files)
    (hfresh : p.fresh = []) (hcatalogs : SameAt (s.store.paths r.name) w p.workspace)
    (hreports : Reports r (.ok [])) : NamespaceSettled e s files w p.workspace r := by
  have hnone : extracted e s r.name w r.files = [] := by
    rw [hfiles, ← Catalog.extend_eq_nil_iff, ← hp.fresh, hfresh]
  refine ⟨hfiles ▸ hp.paths, hfiles ▸ hp.settled, ?_⟩
  rw [CatalogsSettled, if_pos hnone]
  exact ⟨hcatalogs, hreports⟩

theorem settled_of_saved {saved : Workspace} {existing : Catalog.Existing}
    {result : Except WriteError (List Catalog.Written)} (hw : w.WellFormed)
    (hwrite : e.write.MayFail) (hp : Progressed e s r.name w files p) (hfiles : r.files = p.files)
    (hfresh : p.fresh ≠ []) (hout : ∀ path ∈ files, w.place path ∉ s.store.places w r.name)
    (hcatalogs : SameAt (s.store.paths r.name) w p.workspace)
    (hexisting : s.store.loadExisting w r.name = .ok existing)
    (hsaved : s.store.saveNamespace e.write e.translate p.workspace r.name existing p.fresh =
      (saved, result))
    (hreports : Reports r result) : NamespaceSettled e s files w saved r := by
  have hready : p.workspace.WellFormed := hp.changes.wellFormed hw
  have hchanges := Catalog.Store.changes_saveNamespace hwrite hready hexisting e.translate p.fresh
  rw [hsaved, Catalog.Store.places_eq_of_directory hp.changes.directory] at hchanges
  have hsome : extracted e s r.name w r.files ≠ [] := by
    rw [hfiles, ne_eq, ← Catalog.extend_eq_nil_iff, ← hp.fresh]
    exact hfresh
  refine ⟨hfiles ▸ hp.paths, ?_, ?_⟩
  · intro f hf
    rw [hfiles] at hf
    refine (hp.settled f hf).congr_after (hchanges.contentAt_eq hready ?_)
    rw [hp.changes.place_eq]
    exact hout f.path (hp.paths ▸ List.mem_map_of_mem hf)
  · rw [CatalogsSettled, if_neg hsome]
    refine ⟨w, existing, p.workspace, saved, result, fun _ _ => rfl, hexisting, hready, hcatalogs,
      ?_, fun _ _ => rfl, hreports⟩
    rw [hfiles, ← hp.fresh]
    exact hsaved

end

/-- The turn of a namespace whose files lie at places of their own, apart from its catalogs. -/
theorem migrateFiles_settled {e : Engine} {s : Settings} (hwrite : e.write.MayFail)
    (happly : s.apply = true) {w w' : Workspace} (hw : w.WellFormed) {namespaceName : String}
    {found : Scan.Found} (hnodup : (found.files.map w.place).Nodup)
    (hout : ∀ path ∈ found.files, w.place path ∉ s.store.places w namespaceName)
    {r : NamespaceReport} (h : migrateFiles e s namespaceName found w = (w', r)) :
    r.name = namespaceName ∧
      w.Changes (found.files.map w.place ++ s.store.places w namespaceName) w' ∧
      NamespaceSettled e s found.files w w' r := by
  obtain ⟨blocked, n, rfl, hfiles, hn, hcases⟩ := migrateFiles_cases e s namespaceName found w
  have hp : Progressed e s n.name w found.files (progress e s n.name blocked w found.files) :=
    Progressed.foldl_advance hwrite happly hw blocked (.start hw) hnodup
  generalize progress e s n.name blocked w found.files = p at hfiles hcases hp
  have hcatalogs : SameAt (s.store.paths n.name) w p.workspace := by
    refine sameAt_of_changes hp.changes hw fun path hpath hmem => ?_
    obtain ⟨file, hfile, heq⟩ := List.mem_map.mp hmem
    exact hout file hfile (heq ▸ List.mem_map_of_mem hpath)
  rcases hcases with ⟨hfresh, hturn⟩ | ⟨existing, hexisting, hfresh, hturn⟩
  · rw [hturn] at h
    cases h
    exact ⟨rfl, hp.changes.mono (by simp),
      settled_of_fresh_eq_nil hp hfiles hfresh hcatalogs hn⟩
  · rw [hturn] at h
    obtain ⟨hname, hfiles', result, hsaved, hreports⟩ := finish_cases happly hn h
    have hchanges := Catalog.Store.changes_saveNamespace hwrite (hp.changes.wellFormed hw)
      hexisting e.translate p.fresh
    rw [hsaved, Catalog.Store.places_eq_of_directory hp.changes.directory] at hchanges
    refine ⟨hname, (hp.changes.mono (by simp)).trans (hchanges.mono (by simp)), ?_⟩
    rw [← hname] at hp hout hcatalogs hexisting hsaved
    exact settled_of_saved hw hwrite hp (hfiles'.trans hfiles) hfresh hout hcatalogs hexisting
      hsaved hreports

end Phrasebook.Run
