import Phrasebook.Proofs.Run.Rerun

/-!
Runs in which nothing failed.

A run is complete if every file that it looks at was skipped or now holds what its text was migrated
to, and if every namespace with such a file got its catalogs in all locales. A report without a
failure says just that: whatever fails on the way is counted, and nothing is counted that did not
fail.
-/

namespace Phrasebook

open Script (Module)

/-- No file is migrated without a text being taken out of it. -/
def Engine.TakesTexts (e : Engine) : Prop :=
  ∀ options path namespaceName source m,
    e.transform options path namespaceName source = .ok (.migrated m) → m.entries ≠ []

theorem Engine.takesTexts_reading (read : String → String → Option Module)
    (translate : Catalog.Translator) (write : Writer) :
    (Engine.reading read translate write).TakesTexts := by
  intro options path namespaceName source m hm
  obtain ⟨tree, quote, -, -, heligible⟩ := Component.exists_of_migrateWith hm
  obtain ⟨hliterals, -, -, -, hentries⟩ := Component.exists_of_migrateEligible heligible
  rw [hentries]
  simpa using hliterals

namespace Catalog.Store

/-- The locales whose catalogs are written, one after the other until a write fails. -/
def savedLocales (s : Store) (write : Writer) (namespaceName : String) (w : Workspace) :
    List (String × Json.Fields) → List String
  | [] => []
  | (locale, fields) :: rest =>
      match save write w (s.path namespaceName locale) fields with
      | (_, some _) => []
      | (next, none) => locale :: s.savedLocales write namespaceName next rest

/-- Saving gives a list just when no locale was left out. -/
theorem savedLocales_eq_iff (s : Store) (write : Writer) (namespaceName : String) (w : Workspace)
    (catalogs : List (String × Json.Fields)) :
    s.savedLocales write namespaceName w catalogs = catalogs.map (·.1) ↔
      ∃ written, (s.saveLocales write namespaceName w catalogs).2 = .ok written := by
  induction catalogs generalizing w with
  | nil => exact ⟨fun _ => ⟨[], rfl⟩, fun _ => rfl⟩
  | cons catalog rest ih =>
      obtain ⟨locale, fields⟩ := catalog
      rw [savedLocales, saveLocales]
      rcases save write w (s.path namespaceName locale) fields with ⟨next, _ | cause⟩
      · simp only [List.map_cons, List.cons.injEq, true_and, ih next]
        cases (s.saveLocales write namespaceName next rest).2 <;> simp [Except.map]
      · simp

end Catalog.Store

namespace Run

/-- A file in which there is nothing to migrate. -/
def Skips (e : Engine) (s : Settings) (namespaceName : String) (w : Workspace) (path : String) :
    Prop :=
  ∃ source reason diagnostics, w.readText path = .ok source ∧
    e.transform s.toOptions path namespaceName source = .ok (.skipped reason diagnostics)

/-- A file that now holds what its text was migrated to. -/
def Rewritten (e : Engine) (s : Settings) (namespaceName : String) (before after : Workspace)
    (path : String) : Prop :=
  ∃ source m, before.readText path = .ok source ∧
    e.transform s.toOptions path namespaceName source = .ok (.migrated m) ∧
    after.readText path = .ok m.code

/-- The locales in which a namespace gets a catalog in its turn. -/
def savedInTurn (e : Engine) (s : Settings) (namespaceName : String) (w : Workspace)
    (files : List String) : List String :=
  match loadedFor e s namespaceName w files with
  | .ok (some existing) =>
      let p := progress e s namespaceName none w files
      if p.fresh.isEmpty then []
      else s.store.savedLocales e.write namespaceName p.workspace
        (s.store.updated e.translate existing p.fresh)
  | _ => []

/-- A namespace with nothing left to do after a run from `w` to `last`, in which its turn came at
`current`. -/
structure Completed (e : Engine) (s : Settings) (w last : Workspace) (n : Scan.Namespace)
    (current : Workspace) : Prop where
  files : ∀ path ∈ scanned s w n.name,
    Skips e s n.name w path ∨ Rewritten e s n.name w last path
  catalogs : (∃ path ∈ scanned s w n.name, Rewritten e s n.name w last path) →
    savedInTurn e s n.name current (scanned s w n.name) = s.baseLocale :: s.mockLocales

/-- A run from `w` to `last` with nothing left to do in any of its namespaces. -/
def Complete (e : Engine) (s : Settings) (found : List Scan.Namespace) (w last : Workspace) :
    Prop :=
  ∀ t ∈ turnsFrom e s found w, Completed e s w last t.1 t.2

/-- What a report may say about a file, given what came of its text. -/
def Accords : Except FileError Component.Outcome → FileStatus → Prop
  | .error _, status => status.isFailed = true
  | .ok (.skipped _ _), status => status.isSkipped = true
  | .ok (.migrated _), status => status.isTranslated = true ∨ status.isFailed = true

theorem advance_accords (e : Engine) (s : Settings) (namespaceName : String)
    (blocked : Option Catalog.LoadError) (p : Progress) (path : String)
    (result : Except FileError Component.Outcome) :
    ∃ report : FileReport, report.path = path ∧
      (advance e s namespaceName blocked p (path, result)).files = p.files ++ [report] ∧
      Accords result report.status := by
  rcases result with cause | ⟨reason, diagnostics⟩ | m
  · exact ⟨_, rfl, rfl, rfl⟩
  · exact ⟨_, rfl, rfl, rfl⟩
  · simp only [advance]
    rcases place e s namespaceName blocked p.workspace path m.code with ⟨w, _ | cause⟩
    · exact ⟨_, rfl, rfl, Or.inl rfl⟩
    · exact ⟨_, rfl, rfl, Or.inr rfl⟩

section Progress

variable {e : Engine} {s : Settings} {namespaceName : String} {w w' : Workspace}
  {blocked : Option Catalog.LoadError} {files : List String} {found : Scan.Found}
  {r : NamespaceReport}

theorem accords_of_mem_progress {f : FileReport}
    (hf : f ∈ (progress e s namespaceName blocked w files).files) :
    Accords (outcome e s namespaceName w f.path) f.status := by
  obtain ⟨p, path, hfiles⟩ := exists_of_mem_progress hf
  obtain ⟨report, rfl, hfiles', haccords⟩ := advance_accords e s namespaceName blocked p path
    (outcome e s namespaceName w path)
  rw [hfiles] at hfiles'
  obtain rfl := List.singleton_inj.mp (List.append_cancel_left hfiles')
  exact haccords

/-- Texts come from translated files only, and each of these gives some. -/
theorem fresh_progress_ne_nil_iff (hwrite : e.write.MayFail) (happly : s.apply = true)
    (htexts : e.TakesTexts) (hw : w.WellFormed) (hnodup : (files.map w.place).Nodup) :
    (progress e s namespaceName blocked w files).fresh ≠ [] ↔
      ∃ f ∈ (progress e s namespaceName blocked w files).files, f.status.isTranslated = true := by
  have hp : Progressed e s namespaceName w files (progress e s namespaceName blocked w files) :=
    Progressed.foldl_advance hwrite happly hw blocked (.start hw) hnodup
  generalize progress e s namespaceName blocked w files = p at hp
  rw [hp.fresh, ne_eq, Catalog.extend_eq_nil_iff]
  constructor
  · intro hsome
    obtain ⟨entry, hentry⟩ := List.exists_mem_of_ne_nil _ hsome
    obtain ⟨f, hf, hentry⟩ := List.mem_flatMap.mp hentry
    refine ⟨f, hf, Classical.byContradiction fun huntranslated => ?_⟩
    simp [entriesOf, huntranslated] at hentry
  · rintro ⟨f, hf, htranslated⟩ hnone
    have hfile := hp.settled f hf
    rw [FileSettled, if_pos htranslated] at hfile
    obtain ⟨m, hm, -⟩ := hfile
    obtain ⟨source, -, hmigrated⟩ := exists_of_migration? hm
    have hentries : entriesOf e s namespaceName w f = m.entries := by
      simp [entriesOf, htranslated, hm]
    apply htexts _ _ _ _ _ hmigrated
    rw [← hentries]
    exact List.flatMap_eq_nil_iff.mp hnone f hf

/-- The catalogs of a namespace fail in its turn unless each of them is saved. -/
theorem catalogError_eq_none_iff (happly : s.apply = true)
    (h : migrateFiles e s namespaceName found w = (w', r)) :
    r.catalogError = none ↔
      ((progress e s namespaceName (blockedBy (loadedFor e s namespaceName w found.files)) w
          found.files).fresh ≠ [] →
        savedInTurn e s namespaceName w found.files = s.baseLocale :: s.mockLocales) := by
  rcases idle_or_loaded e s namespaceName w found.files with hidle | ⟨existing, hexisting, hload⟩
  · obtain ⟨reports, -, -, hprogress⟩ := hidle.progress_eq
    obtain ⟨r', -, -, -, hreports, hturn⟩ := hidle.migrateFiles_eq
    rw [hturn] at h
    cases h
    simp [hprogress, hreports.2]
  · have hfree : blockedBy (loadedFor e s namespaceName w found.files) = none := by rw [hload]; rfl
    rw [migrateFiles_eq, hfree, hload, conclude] at h
    rw [hfree, savedInTurn, hload]
    generalize progress e s namespaceName none w found.files = p at h
    by_cases hfresh : p.fresh = []
    · rw [if_pos (List.isEmpty_iff.mpr hfresh)] at h
      cases h
      simp [hfresh, reported]
    · rw [if_neg (mt List.isEmpty_iff.mp hfresh)] at h
      obtain ⟨-, -, result, hsaved, hreports⟩ := finish_cases happly ⟨rfl, rfl⟩ h
      have hresult : (s.store.saveLocales e.write namespaceName p.workspace
          (s.store.updated e.translate existing p.fresh)).2 = result :=
        congrArg Prod.snd hsaved
      have hlocales : (s.store.updated e.translate existing p.fresh).map (·.1) =
          s.baseLocale :: s.mockLocales := by
        rw [Catalog.Store.map_fst_updated, Catalog.Store.map_fst_of_loadExisting hexisting]
        rfl
      simp only [hfresh, List.isEmpty_iff, if_false, not_false_eq_true, true_imp_iff, ne_eq]
      rw [← hlocales, Catalog.Store.savedLocales_eq_iff, hresult]
      cases result with
      | ok written => exact ⟨fun _ => ⟨written, rfl⟩, fun _ => hreports.2⟩
      | error cause => simp [hreports.2]

end Progress

section Turn

variable {e : Engine} {s : Settings} {w last current next : Workspace} {n : Scan.Namespace}
  {r : NamespaceReport}

theorem skips_of_outcome {path : String} {reason : Component.SkipReason}
    {diagnostics : List Component.Diagnostic}
    (h : outcome e s n.name w path = .ok (.skipped reason diagnostics)) :
    Skips e s n.name w path := by
  unfold outcome at h
  split at h
  · cases h
  rename_i source hsource
  split at h
  · cases h
  rename_i o ho
  obtain rfl := Except.ok.inj h
  exact ⟨source, reason, diagnostics, hsource, ho⟩

theorem Turn.files_eq (h : Turn e s w last n current next r) :
    r.files = (progress e s n.name (blockedBy (loadedFor e s n.name current (scanned s w n.name)))
      current (scanned s w n.name)).files := by
  have hfiles := files_migrateFiles e s n.name (Scan.sourceFiles current s.extensions
    (.ofEntries s.componentsRoot s.ignores) n.directory) current
  rwa [h.turn, h.found] at hfiles

theorem Turn.accords (h : Turn e s w last n current next r) (hwrite : e.write.MayFail)
    (happly : s.apply = true) (hw : w.WellFormed) (hrooted : w.Rooted) {f : FileReport}
    (hf : f ∈ r.files) :
    f.path ∈ scanned s w n.name ∧ Accords (outcome e s n.name w f.path) f.status := by
  obtain ⟨-, -, hsettled⟩ := h.changes hwrite happly hw
  have hpath : f.path ∈ scanned s w n.name := hsettled.paths ▸ List.mem_map_of_mem hf
  rw [h.files_eq] at hf
  rw [← outcome_congr (h.readText_eq hw hrooted hpath)]
  exact ⟨hpath, accords_of_mem_progress hf⟩

theorem Turn.rewritten_of_translated (h : Turn e s w last n current next r)
    (hwrite : e.write.MayFail) (happly : s.apply = true) (hw : w.WellFormed) (hrooted : w.Rooted)
    {f : FileReport} (hf : f ∈ r.files) (htranslated : f.status.isTranslated = true) :
    Rewritten e s n.name w last f.path := by
  obtain ⟨hname, -, -⟩ := h.changes hwrite happly hw
  obtain ⟨written, hrun⟩ := h.exists_changes hwrite happly hw
  have hfile := (h.settled hwrite happly hw).file f hf
  rw [FileSettled, if_pos htranslated, hname] at hfile
  obtain ⟨m, hm, hcode⟩ := hfile
  obtain ⟨source, hsource, hmigrated⟩ := exists_of_migration? hm
  -- The file could be read at the start, or it would have failed.
  have hread : w.readText f.path = .ok source := by
    obtain ⟨-, haccords⟩ := h.accords hwrite happly hw hrooted hf
    unfold outcome at haccords
    cases hread : w.readText f.path with
    | error cause =>
        rw [hread] at haccords
        cases hstatus : f.status <;> simp [hstatus, FileStatus.isTranslated, Accords,
          FileStatus.isFailed] at htranslated haccords
    | ok text =>
        have htext := Workspace.contentAt_of_readText hread
        rw [hsource] at htext
        cases htext
        rfl
  exact ⟨source, m, hread, hmigrated, hrun.readText_eq_ok hread hcode⟩

/-- A file that holds its code cannot have failed, since its text was another one. -/
theorem Turn.not_failed_of_rewritten (h : Turn e s w last n current next r)
    (hwrite : e.write.MayFail) (happly : s.apply = true) (hw : w.WellFormed) (hrooted : w.Rooted)
    (honce : e.MigratesOnce) {f : FileReport} (hf : f ∈ r.files)
    (hrewritten : Rewritten e s n.name w last f.path) : f.status.isFailed = false := by
  obtain ⟨source, m, hread, hm, hlast⟩ := hrewritten
  cases hstatus : f.status with
  | translated keys => rfl
  | skipped reason => rfl
  | failed reason =>
      have huntranslated : f.status.isTranslated = false := by rw [hstatus]; rfl
      have hsame := h.readText_of_untranslated hwrite happly hw hrooted hf huntranslated
      rw [hlast, hread] at hsame
      have hskipped := honce _ _ _ _ _ hm
      rw [Except.ok.inj hsame, hm] at hskipped
      cases hskipped

/-- The catalogs of a turn fail unless a translated file means that each of them is saved. -/
theorem Turn.saved_iff (h : Turn e s w last n current next r) (hwrite : e.write.MayFail)
    (happly : s.apply = true) (hw : w.WellFormed) (htexts : e.TakesTexts) :
    r.catalogError = none ↔ ((∃ f ∈ r.files, f.status.isTranslated = true) →
      savedInTurn e s n.name current (scanned s w n.name) = s.baseLocale :: s.mockLocales) := by
  obtain ⟨written, hbefore, -⟩ := h.before
  have hnodup := (Scan.places_of_sourceFiles (hbefore.wellFormed hw) s.extensions
    (.ofEntries s.componentsRoot s.ignores) n.directory).1
  rw [h.found] at hnodup
  rw [catalogError_eq_none_iff happly h.turn, h.found, h.files_eq,
    fresh_progress_ne_nil_iff hwrite happly htexts (hbefore.wellFormed hw) hnodup]

/-- A file with something to migrate is translated unless it fails. -/
theorem Turn.isTranslated_of_outcome (h : Turn e s w last n current next r)
    (hwrite : e.write.MayFail) (happly : s.apply = true) (hw : w.WellFormed) (hrooted : w.Rooted)
    {f : FileReport} (hf : f ∈ r.files) (hsound : f.status.isFailed = false)
    {m : Component.Migrated} (hm : outcome e s n.name w f.path = .ok (.migrated m)) :
    f.status.isTranslated = true := by
  obtain ⟨-, haccords⟩ := h.accords hwrite happly hw hrooted hf
  rw [hm] at haccords
  exact haccords.resolve_right (by simp [hsound])

/-- A namespace is completed in its turn unless a file or the catalogs failed. -/
theorem Turn.completed_iff (h : Turn e s w last n current next r) (hwrite : e.write.MayFail)
    (happly : s.apply = true) (hw : w.WellFormed) (hrooted : w.Rooted) (honce : e.MigratesOnce)
    (htexts : e.TakesTexts) :
    Completed e s w last n current ↔
      (∀ f ∈ r.files, f.status.isFailed = false) ∧ r.catalogError = none := by
  obtain ⟨-, -, hsettled⟩ := h.changes hwrite happly hw
  constructor
  · intro hcompleted
    constructor
    · intro f hf
      obtain ⟨hpath, haccords⟩ := h.accords hwrite happly hw hrooted hf
      rcases hcompleted.files f.path hpath with ⟨source, reason, _, hread, hskipped⟩ | hrewritten
      · rw [outcome_eq_ok hread hskipped] at haccords
        cases hstatus : f.status with
        | failed reason => simp [Accords, hstatus, FileStatus.isSkipped] at haccords
        | _ => rfl
      · exact h.not_failed_of_rewritten hwrite happly hw hrooted honce hf hrewritten
    · apply (h.saved_iff hwrite happly hw htexts).mpr
      rintro ⟨f, hf, htranslated⟩
      apply hcompleted.catalogs
      exact ⟨f.path, (h.accords hwrite happly hw hrooted hf).1,
        h.rewritten_of_translated hwrite happly hw hrooted hf htranslated⟩
  · rintro ⟨hsound, hnone⟩
    constructor
    · intro path hpath
      rw [← hsettled.paths] at hpath
      obtain ⟨f, hf, rfl⟩ := List.mem_map.mp hpath
      obtain ⟨-, haccords⟩ := h.accords hwrite happly hw hrooted hf
      rcases houtcome : outcome e s n.name w f.path with cause | ⟨reason, diagnostics⟩ | m
      · rw [houtcome, Accords, hsound f hf] at haccords
        cases haccords
      · exact Or.inl (skips_of_outcome houtcome)
      · right
        apply h.rewritten_of_translated hwrite happly hw hrooted hf
        exact h.isTranslated_of_outcome hwrite happly hw hrooted hf (hsound f hf) houtcome
    · rintro ⟨path, hpath, source, m, hread, hm, -⟩
      rw [← hsettled.paths] at hpath
      obtain ⟨f, hf, rfl⟩ := List.mem_map.mp hpath
      apply (h.saved_iff hwrite happly hw htexts).mp hnone
      exact ⟨f, hf, h.isTranslated_of_outcome hwrite happly hw hrooted hf (hsound f hf)
        (outcome_eq_ok hread hm)⟩

end Turn

end Run

theorem Report.failureCount_eq_zero_iff (r : Report) :
    r.failureCount = 0 ↔
      ∀ n ∈ r.namespaces, (∀ f ∈ n.files, f.status.isFailed = false) ∧ n.catalogError = none := by
  unfold failureCount failedCount catalogErrorCount files
  rw [Nat.add_eq_zero_iff, List.countP_eq_zero, List.countP_eq_zero]
  constructor
  · rintro ⟨hfiles, hcatalogs⟩ n hn
    constructor
    · intro f hf
      simpa using hfiles f (List.mem_flatMap.mpr ⟨n, hn, hf⟩)
    · simpa using hcatalogs n hn
  · intro h
    constructor
    · intro f hf
      obtain ⟨n, hn, hf⟩ := List.mem_flatMap.mp hf
      simp [(h n hn).1 f hf]
    · intro n hn
      simp [(h n hn).2]

namespace Run

/-- The failures that a run counts are what keeps it from being complete. -/
theorem complete_iff {e : Engine} {s : Settings} {w : Workspace} {found : List Scan.Namespace}
    {done : Finished} (hwrite : e.write.MayFail) (happly : s.apply = true) (hw : w.WellFormed)
    (hrooted : w.Rooted) (hout : s.CatalogsOutside w) (honce : e.MigratesOnce)
    (htexts : e.TakesTexts) (hfound : Scan.namespaces w s.componentsRoot s.only = .ok found)
    (h : migrate e s w = .ok done) :
    Complete e s found w done.workspace ↔ done.report.failureCount = 0 := by
  obtain ⟨hroot, ⟨mode, hdir⟩, hnodup, hproper⟩ := proper_of_namespaces hw hout hfound
  unfold migrate at h
  rw [hfound] at h
  simp only at h
  rcases hrun : migrateNamespaces e s (.ofEntries s.componentsRoot s.ignores) found w with
    ⟨last, reports, warnings⟩
  rw [hrun] at h
  cases h
  have hstart : w.Changes [] w := .refl hw
  obtain ⟨-, hturns, -⟩ := turn_of_mem_turnsFrom hwrite happly hw hroot hdir hproper hnodup hstart
    (by simp) hrun
  rw [Report.failureCount_eq_zero_iff, reports_migrateNamespaces hrun, List.forall_mem_map]
  refine forall_congr' fun t => forall_congr' fun ht => ?_
  exact (hturns t ht).completed_iff hwrite happly hw hrooted honce htexts

end Run

end Phrasebook
