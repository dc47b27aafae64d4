import Phrasebook.Proofs.Catalog.Loading
import Phrasebook.Proofs.Run.AllOrNothing
import Phrasebook.Proofs.Run.Cataloged

/-!
A second run finds nothing to do.

A file that was translated counts as migrated now, a file that was skipped or failed is as it was,
and catalogs that could not be used still cannot. The one kind of file that a second run would take
up again is a file that could not be written.
-/

namespace Phrasebook

open Disk (Location)
open Script (Module)

/-- Migrated code is skipped. -/
def Engine.MigratesOnce (e : Engine) : Prop :=
  ∀ options path namespaceName source m,
    e.transform options path namespaceName source = .ok (.migrated m) →
    e.transform options path namespaceName m.code = .ok (.skipped .alreadyMigrated [])

theorem Engine.migratesOnce_reading {read : String → String → Option Module}
    (hread : ∀ path, Component.ReadsImports (read path)) (translate : Catalog.Translator)
    (write : Writer) : (Engine.reading read translate write).MigratesOnce := by
  intro options path namespaceName source m hm
  obtain ⟨result, hresult, hmigrated⟩ := Component.eligibility_code (hread path) hm
  simp only [reading, Component.migrateWith, hresult, hmigrated]

namespace Run

section

variable {e : Engine} {s : Settings} {namespaceName : String} {w w' : Workspace}

theorem exists_of_needsCatalog {path : String}
    (h : needsCatalog (outcome e s namespaceName w path) = true) :
    ∃ source, w.readText path = .ok source := by
  unfold outcome at h
  split at h
  · cases h
  · rename_i source hsource
    exact ⟨source, hsource⟩

/-- Each report was put behind the others when the run came to its file. -/
theorem exists_of_mem_progress {blocked : Option Catalog.LoadError} {files : List String}
    {f : FileReport} (hf : f ∈ (progress e s namespaceName blocked w files).files) :
    ∃ p path, (advance e s namespaceName blocked p
      (path, outcome e s namespaceName w path)).files = p.files ++ [f] := by
  have hfold : ∀ p : Progress, f ∈ ((files.map fun path =>
      (path, outcome e s namespaceName w path)).foldl (advance e s namespaceName blocked) p).files →
      f ∈ p.files ∨ ∃ p path, (advance e s namespaceName blocked p
        (path, outcome e s namespaceName w path)).files = p.files ++ [f] := by
    clear hf
    induction files with
    | nil => exact fun p hf => Or.inl hf
    | cons path files ih =>
        intro p hf
        rcases ih _ hf with hold | hnew
        · obtain ⟨report, -, hfiles, -⟩ := advance_files e s namespaceName blocked p path
            (outcome e s namespaceName w path)
          rw [hfiles] at hold
          rcases List.mem_append.mp hold with hold | hlast
          · exact Or.inl hold
          · obtain rfl := List.mem_singleton.mp hlast
            exact Or.inr ⟨p, path, hfiles⟩
        · exact Or.inr hnew
  rcases hfold _ hf with hstart | hf
  · cases hstart
  · exact hf

theorem isTranslated_of_mem_progress {files : List String} {f : FileReport}
    (hf : f ∈ (progress e s namespaceName none w files).files) :
    f.status.isTranslated = needsCatalog (outcome e s namespaceName w f.path) ∨ f.Unwritten := by
  obtain ⟨p, path, hfiles⟩ := exists_of_mem_progress hf
  obtain ⟨report, rfl, hfiles', hreport⟩ := advance_files e s namespaceName none p path
    (outcome e s namespaceName w path)
  rw [hfiles] at hfiles'
  obtain rfl := List.singleton_inj.mp (List.append_cancel_left hfiles')
  exact hreport rfl

/-- A turn does nothing, or it translates all files that can be migrated and written. -/
theorem migrateFiles_explained {found : Scan.Found} {r : NamespaceReport}
    (h : migrateFiles e s namespaceName found w = (w', r)) :
    Idle e s namespaceName w found.files ∧ w' = w ∧
        (∀ f ∈ r.files, f.status.isTranslated = false) ∨
      ∀ f ∈ r.files, f.status.isTranslated = needsCatalog (outcome e s namespaceName w f.path) ∨
        f.Unwritten := by
  rcases idle_or_loaded e s namespaceName w found.files with hidle | ⟨existing, -, hload⟩
  · obtain ⟨r', -, -, huntranslated, -, hturn⟩ := hidle.migrateFiles_eq
    rw [hturn] at h
    cases h
    exact Or.inl ⟨hidle, rfl, huntranslated⟩
  · have hfiles : r.files = (progress e s namespaceName none w found.files).files := by
      have hturn := files_migrateFiles e s namespaceName found w
      rwa [h, hload] at hturn
    exact Or.inr fun f hf => isTranslated_of_mem_progress (hfiles ▸ hf)

end

section

variable {e : Engine} {s : Settings} {w last current next : Workspace} {n : Scan.Namespace}
  {r : NamespaceReport}

theorem Turn.exists_changes (h : Turn e s w last n current next r) (hwrite : e.write.MayFail)
    (happly : s.apply = true) (hw : w.WellFormed) : ∃ written, w.Changes written last := by
  obtain ⟨-, hchanged, -⟩ := h.changes hwrite happly hw
  obtain ⟨written, hbefore, -⟩ := h.before
  obtain ⟨written', hafter, -⟩ := h.after
  have hrun : w.Changes (written ++ touched s w r ++ written') last :=
    ((hbefore.mono (by simp)).trans (hchanged.mono (by simp))).trans (hafter.mono (by simp))
  exact ⟨_, hrun⟩

/-- A file that a run did not translate reads at the end as at the start. -/
theorem Turn.readText_of_untranslated (h : Turn e s w last n current next r)
    (hwrite : e.write.MayFail) (happly : s.apply = true) (hw : w.WellFormed) (hrooted : w.Rooted)
    {f : FileReport} (hf : f ∈ r.files) (huntranslated : f.status.isTranslated = false) :
    last.readText f.path = w.readText f.path := by
  obtain ⟨-, -, hsettled⟩ := h.changes hwrite happly hw
  have hpath : f.path ∈ scanned s w n.name := hsettled.paths ▸ List.mem_map_of_mem hf
  obtain ⟨written, hrun⟩ := h.exists_changes hwrite happly hw
  refine h.proper.readText_eq hw hrooted hrun hpath ?_
  have hfile := (h.settled hwrite happly hw).file f hf
  rwa [FileSettled, huntranslated] at hfile

/-- A file that a run did not translate gives at the end what it gave when its turn came. -/
theorem Turn.outcome_eq (h : Turn e s w last n current next r) (hwrite : e.write.MayFail)
    (happly : s.apply = true) (hw : w.WellFormed) (hrooted : w.Rooted) {f : FileReport}
    (hf : f ∈ r.files) (huntranslated : f.status.isTranslated = false) :
    outcome e s n.name last f.path = outcome e s n.name current f.path := by
  obtain ⟨-, -, hsettled⟩ := h.changes hwrite happly hw
  have hpath : f.path ∈ scanned s w n.name := hsettled.paths ▸ List.mem_map_of_mem hf
  have hlast := h.readText_of_untranslated hwrite happly hw hrooted hf huntranslated
  exact outcome_congr (hlast.trans (h.readText_eq hw hrooted hpath).symm)

/-- A file that a run translated is skipped from then on. -/
theorem Turn.outcome_of_translated (h : Turn e s w last n current next r)
    (hwrite : e.write.MayFail) (happly : s.apply = true) (hw : w.WellFormed)
    (honce : e.MigratesOnce) {f : FileReport} (hf : f ∈ r.files)
    (htranslated : f.status.isTranslated = true) {source : String}
    (hread : current.readText f.path = .ok source) :
    outcome e s n.name last f.path = .ok (.skipped .alreadyMigrated []) := by
  obtain ⟨hname, hchanged, -⟩ := h.changes hwrite happly hw
  obtain ⟨written', hafter, -⟩ := h.after
  have hfile := (h.settled hwrite happly hw).file f hf
  rw [FileSettled, if_pos htranslated, hname] at hfile
  obtain ⟨m, hm, hcode⟩ := hfile
  obtain ⟨source', -, hmigrated⟩ := exists_of_migration? hm
  have hchanges : current.Changes (touched s w r ++ written') last :=
    (hchanged.mono (by simp)).trans (hafter.mono (by simp))
  exact outcome_eq_ok (hchanges.readText_eq_ok hread hcode) (honce _ _ _ _ _ hmigrated)

/-- After its turn there is nothing to do in a namespace, unless a file could not be written. -/
theorem Turn.idle (h : Turn e s w last n current next r) (hwrite : e.write.MayFail)
    (happly : s.apply = true) (hw : w.WellFormed) (hrooted : w.Rooted) (honce : e.MigratesOnce)
    (hwritten : ∀ f ∈ r.files, ¬ f.Unwritten) : Idle e s n.name last (scanned s w n.name) := by
  intro path hpath hneed
  obtain ⟨-, -, hsettled⟩ := h.changes hwrite happly hw
  rw [← hsettled.paths] at hpath
  obtain ⟨f, hf, rfl⟩ := List.mem_map.mp hpath
  rcases migrateFiles_explained h.turn with ⟨hidle, rfl, huntranslated⟩ | hexplained
  · rw [h.found] at hidle
    rw [h.outcome_eq hwrite happly hw hrooted hf (huntranslated f hf)] at hneed
    have hunusable := hidle f.path (hsettled.paths ▸ hpath) hneed
    obtain ⟨written, hbefore, -⟩ := h.before
    obtain ⟨written', hafter, hfree⟩ := h.after
    refine Catalog.Store.loadExisting_eq_error_of_changes hafter (hbefore.wellFormed hw) ?_
      hunusable
    intro loc hloc hmem
    rw [Catalog.Store.places_eq_of_directory hbefore.directory] at hloc
    exact hfree loc hmem (Or.inr hloc)
  · have hstatus : f.status.isTranslated = needsCatalog (outcome e s n.name current f.path) :=
      (hexplained f hf).resolve_right (hwritten f hf)
    cases htranslated : f.status.isTranslated with
    | true =>
        obtain ⟨source, hread⟩ := exists_of_needsCatalog (hstatus.symm.trans htranslated)
        rw [h.outcome_of_translated hwrite happly hw honce hf htranslated hread] at hneed
        cases hneed
    | false =>
        rw [h.outcome_eq hwrite happly hw hrooted hf htranslated, ← hstatus, htranslated] at hneed
        cases hneed

end

/-- A run over namespaces without anything to do changes nothing. -/
theorem migrateNamespaces_of_idle {e : Engine} {s : Settings} {rules : Scan.IgnoreRules}
    {w : Workspace} {namespaces : List Scan.Namespace}
    (h : ∀ n ∈ namespaces,
      Idle e s n.name w (Scan.sourceFiles w s.extensions rules n.directory).files) :
    ∃ reports warnings, migrateNamespaces e s rules namespaces w = (w, reports, warnings) ∧
      ∀ r ∈ reports, (∀ f ∈ r.files, f.status.isTranslated = false) ∧ r.written = [] := by
  induction namespaces with
  | nil => exact ⟨[], [], rfl, by simp⟩
  | cons n rest ih =>
      obtain ⟨r, -, -, huntranslated, hreports, hturn⟩ :=
        (h n List.mem_cons_self).migrateFiles_eq
      obtain ⟨reports, warnings, hrest, hall⟩ := ih fun n' hn' => h n' (List.mem_cons_of_mem _ hn')
      simp only [migrateNamespaces, hturn, hrest]
      refine ⟨_, _, rfl, fun r' hr' => ?_⟩
      rcases List.mem_cons.mp hr' with rfl | hr'
      · exact ⟨huntranslated, hreports.1⟩
      · exact hall r' hr'

/-- A run puts no file below the directory of components where none was. -/
theorem exists_content?_of_migrate {e : Engine} {s : Settings} {w : Workspace}
    (hwrite : e.write.MayFail) (happly : s.apply = true) (hw : w.WellFormed)
    (hout : s.CatalogsOutside w) {done : Finished} (h : migrate e s w = .ok done) {loc : Location}
    (hbelow : w.place s.componentsRoot <+: loc) {content : Disk.Content}
    (hcontent : done.workspace.disk.content? loc = some content) :
    ∃ content', w.disk.content? loc = some content' := by
  by_cases hsame : done.workspace.disk.content? loc = w.disk.content? loc
  · exact ⟨content, hsame ▸ hcontent⟩
  · obtain ⟨r, hr, f, hf, rfl, htranslated⟩ :=
      exists_of_changed hwrite happly hw hout h hbelow hsame
    obtain ⟨-, hsettled, -⟩ := settled_of_migrate hwrite happly hw hout h
    have hfile := (hsettled r hr).file f hf
    rw [FileSettled, if_pos htranslated] at hfile
    obtain ⟨m, hm, -⟩ := hfile
    obtain ⟨source, hsource, -⟩ := exists_of_migration? hm
    exact ⟨_, hsource⟩

/-- Every file that is found after a run was found in the same namespace before it. -/
theorem mem_scanned_of_migrate {e : Engine} {s : Settings} {w : Workspace}
    (hwrite : e.write.MayFail) (happly : s.apply = true) (hw : w.WellFormed) (hrooted : w.Rooted)
    (hout : s.CatalogsOutside w) {done : Finished} (h : migrate e s w = .ok done)
    {found : List Scan.Namespace}
    (hfound : Scan.namespaces done.workspace s.componentsRoot s.only = .ok found)
    {n : Scan.Namespace} (hn : n ∈ found) {path : String}
    (hpath : path ∈ (Scan.sourceFiles done.workspace s.extensions
      (.ofEntries s.componentsRoot s.ignores) n.directory).files) :
    path ∈ scanned s w n.name ∧ ∃ r ∈ done.report.namespaces, r.name = n.name := by
  obtain ⟨⟨first, hfirst, hnames⟩, hsettled, hchanges⟩ :=
    settled_of_migrate hwrite happly hw hout h
  obtain ⟨hroot, ⟨mode, hdir⟩, -, -⟩ := proper_of_namespaces hw hout hfirst
  have hdone := hchanges.wellFormed hw
  obtain ⟨hdirectory, hselected, mode', hthere'⟩ :=
    (Scan.mem_namespaces_iff hdone hfound).mp hn
  have hname : Path.IsName n.name := by
    obtain ⟨_, _, _, _, _, hall⟩ := Scan.exists_of_namespaces hdone hfound
    exact (hall n hn).2.1
  have hplace : done.workspace.place n.directory = w.place s.componentsRoot ++ [n.name] := by
    rw [hchanges.place_eq, hdirectory, w.place_join s.componentsRoot hname]
  rw [hchanges.place_eq] at hthere'
  have hlocate := Scan.locate_of_mem_sourceFiles hpath
  rw [hplace] at hlocate
  obtain ⟨⟨⟨loc, content⟩, hmem, hbelow⟩, hkept⟩ :=
    (Scan.mem_sourceFiles_iff hlocate hthere').mp hpath
  obtain ⟨rest, hrest, rfl⟩ := Scan.exists_of_pathBelow? hbelow
  -- The file was there before the run, so its namespace was there too.
  obtain ⟨content', hcontent'⟩ := exists_content?_of_migrate hwrite happly hw hout h
    (List.append_assoc .. ▸ List.prefix_append ..) ((Disk.mem_files_iff hdone.disk).mp hmem)
  obtain ⟨node, hnode, -⟩ := Option.bind_eq_some_iff.mp hcontent'
  obtain ⟨mode'', hthere⟩ := hrooted.directory_of_get? hrest hnode
  constructor
  · have hlocate' : w.locate n.directory = .ok (w.place s.componentsRoot ++ [n.name]) := by
      rw [← hlocate, hdirectory, hchanges.locate_join hname hroot hdir hthere]
    rw [scanned, ← hdirectory]
    exact (Scan.mem_sourceFiles_iff hlocate' hthere).mpr
      ⟨⟨_, (Disk.mem_files_iff hw.disk).mpr hcontent', hbelow⟩, hkept⟩
  · have hmem : n ∈ first :=
      (Scan.mem_namespaces_iff hw hfirst).mpr ⟨hdirectory, hselected, mode'', hthere⟩
    exact List.mem_map.mp (hnames ▸ List.mem_map_of_mem hmem)

/-- A second run leaves the disk as the first one left it. It translates no file and writes no
catalog. -/
theorem migrate_again {read : String → String → Option Module} {translate : Catalog.Translator}
    {write : Writer} {s : Settings} {w : Workspace} {done : Finished}
    (hread : ∀ path, Component.ReadsImports (read path)) (hwrite : write.MayFail)
    (happly : s.apply = true) (hw : w.WellFormed) (hrooted : w.Rooted) (hout : s.CatalogsOutside w)
    (h : migrate (.reading read translate write) s w = .ok done)
    (hwritten : ∀ r ∈ done.report.namespaces, ∀ f ∈ r.files, ¬ f.Unwritten)
    (translate' : Catalog.Translator) (write' : Writer) :
    ∃ again, migrate (.reading read translate' write') s done.workspace = .ok again ∧
      again.workspace = done.workspace ∧
      ∀ r ∈ again.report.namespaces,
        (∀ f ∈ r.files, f.status.isTranslated = false) ∧ r.written = [] := by
  obtain ⟨⟨first, hfirst, -⟩, hturns, hchanges⟩ := turns_of_migrate hwrite happly hw hout h
  obtain ⟨found, hfound⟩ := Scan.namespaces_of_changes hchanges hfirst
  have honce := Engine.migratesOnce_reading hread translate write
  have hidle : ∀ n ∈ found, Idle (.reading read translate' write') s n.name done.workspace
      (Scan.sourceFiles done.workspace s.extensions (.ofEntries s.componentsRoot s.ignores)
        n.directory).files := by
    intro n hn path hpath hneed
    obtain ⟨hscanned, r, hr, hname⟩ :=
      mem_scanned_of_migrate hwrite happly hw hrooted hout h hfound hn hpath
    obtain ⟨n', current, next, hturn⟩ := hturns r hr
    obtain ⟨hname', -, -⟩ := hturn.changes hwrite happly hw
    have hidle := hturn.idle hwrite happly hw hrooted honce (hwritten r hr)
    rw [← hname', hname] at hidle
    exact hidle path hscanned hneed
  obtain ⟨reports, warnings, hrun, hreports⟩ := migrateNamespaces_of_idle hidle
  simp only [migrate, hfound, hrun]
  exact ⟨_, rfl, rfl, hreports⟩

theorem rooted_greetingProject : greetingProject.Rooted :=
  Workspace.rooted_of_nodes (by decide) (by decide)

def greetingPath : String := "./src/components/Common/Greeting.jsx"

def greetingSettings : Settings := { i18nModule := "it's", apply := true }

theorem sourceFiles_greetingProject :
    Scan.sourceFiles greetingProject greetingSettings.extensions
        (.ofEntries greetingSettings.componentsRoot greetingSettings.ignores)
        (Path.join "./src/components" "Common") = ⟨[greetingPath], []⟩ := by
  have hfound : (Scan.regularFiles greetingProject
      (Path.join "./src/components" "Common")).toOption = some [greetingPath] := by
    decide +kernel
  have hkept : (!(Scan.IgnoreRules.ofEntries greetingSettings.componentsRoot
      greetingSettings.ignores).ignores greetingPath &&
        Scan.hasExtension greetingSettings.extensions greetingPath) = true := by
    decide +kernel
  exact Scan.sourceFiles_of_regularFiles (eq_ok_of_toOption hfound) hkept

/-- The project is translated although the catalog of one locale cannot be written. -/
theorem migrate_greetingProject (read : String → String → Option Module) {m : Component.Migrated}
    (hm : Component.migrateWith (read greetingPath) greetingSettings.toOptions "Common"
      Component.greeting = .ok (.migrated m))
    (hcode : m.code = Component.migratedGreeting) (hentries : m.entries ≠ []) :
    ∃ done r, migrate (.reading read Mock.shuffled
          (failsAt "./public/static/locales/de/Common.json")) greetingSettings greetingProject =
        .ok done ∧
      done.report.namespaces = [r] ∧ r.files.map (·.status) = [.translated m.entries.length] := by
  have hread : greetingProject.readText greetingPath = .ok Component.greeting :=
    eq_ok_of_toOption (by decide +kernel)
  have hexisting : (greetingSettings.store.loadExisting greetingProject
      "Common").toOption.isSome = true := by
    decide +kernel
  obtain ⟨existing, hexisting⟩ := Option.isSome_iff_exists.mp hexisting
  have hreplaced : (Workspace.replace greetingProject greetingPath
      (.text Component.migratedGreeting)).2 = none := by
    decide +kernel
  have hwritten : (failsAt "./public/static/locales/de/Common.json" greetingProject greetingPath
      (.text m.code)).2 = none := by
    have hother : greetingPath ≠ "./public/static/locales/de/Common.json" := by decide
    rw [failsAt, if_neg hother, hcode, hreplaced]
  obtain ⟨r, hturn, -, hstatus, -⟩ := migrateFiles_single
    (e := .reading read Mock.shuffled (failsAt "./public/static/locales/de/Common.json"))
    (s := greetingSettings) rfl (outcome_eq_ok hread hm) (eq_ok_of_toOption hexisting)
    (eq_mk_of_snd_eq hwritten) hentries (Prod.eta _).symm
  obtain ⟨done, hdone, -, hreports⟩ :=
    migrate_single (s := greetingSettings) namespaces_greetingProject sourceFiles_greetingProject
      hturn
  exact ⟨done, r, hdone, hreports, hstatus⟩

/-- What the failed catalog leaves is not made up for: the second run has nothing to do. -/
theorem greetingProject_migrated_again :
    ∃ done again, migrate (.reading (fun _ => Component.readGreeting) Mock.shuffled
          (failsAt "./public/static/locales/de/Common.json")) greetingSettings greetingProject =
        .ok done ∧
      (∃ r ∈ done.report.namespaces, r.files.map (·.status) = [.translated 1]) ∧
      migrate (.reading (fun _ => Component.readGreeting) Mock.shuffled Workspace.replace)
        greetingSettings done.workspace = .ok again ∧
      again.workspace = done.workspace ∧
      ∀ r ∈ again.report.namespaces,
        (∀ f ∈ r.files, f.status.isTranslated = false) ∧ r.written = [] := by
  have hout : greetingSettings.CatalogsOutside greetingProject := by
    intro found hfound n hn path hpath
    obtain rfl := Except.ok.inj (namespaces_greetingProject.symm.trans hfound)
    obtain rfl := List.mem_singleton.mp hn
    revert path
    decide +kernel
  obtain ⟨m, hm, hcode, hentries⟩ := Component.migrateWith_greeting
  obtain ⟨done, r, hdone, hreports, hstatus⟩ :=
    migrate_greetingProject (fun _ => Component.readGreeting) hm hcode (by simp [hentries])
  rw [hentries] at hstatus
  have hwritten : ∀ r ∈ done.report.namespaces, ∀ f ∈ r.files, ¬ f.Unwritten := by
    rintro r' hr' f hf ⟨cause, hfailed⟩
    rw [hreports] at hr'
    obtain rfl := List.mem_singleton.mp hr'
    have hmem : f.status ∈ r'.files.map (·.status) := List.mem_map_of_mem hf
    rw [hstatus, hfailed] at hmem
    cases List.mem_singleton.mp hmem
  obtain ⟨again, hagain, hsame, hnothing⟩ :=
    migrate_again (fun _ => Component.readsImports_readGreeting) (mayFail_failsAt _) rfl
      wellFormed_greetingProject rooted_greetingProject hout hdone hwritten Mock.shuffled
      Workspace.replace
  exact ⟨done, again, hdone, ⟨r, by simp [hreports], hstatus⟩, hagain, hsame, hnothing⟩

end Run

end Phrasebook
