import Phrasebook.Command.Basic
import Phrasebook.Proofs.Run.Complete

/-!
What the exit code of a migration tells.

A command that cannot start leaves everything as it is. One that can start ends with success just
when its run was complete: failures that are met on the way are part of the report, and none of them
is lost between the report and the exit code.
-/

namespace Phrasebook.Command

open Run (Complete)
open Script (Module)

/-- A migration can start if its settings are accepted and its components can be listed. -/
structure Starts (w : Workspace) (o : Overrides) (s : Settings) (found : List Scan.Namespace) :
    Prop where
  settings : Settings.load w startDirectory o = .ok s
  components : Scan.namespaces w s.componentsRoot s.only = .ok found

section

variable {w : Workspace} {o : Overrides} {s : Settings} {found : List Scan.Namespace}

theorem Starts.apply_eq (h : Starts w o s found) : s.apply = o.apply := by
  have hload := h.settings
  unfold Settings.load at hload
  split at hload
  · cases hload
  · obtain ⟨c, -, rfl⟩ := exists_of_map_eq_ok hload
    rfl

theorem Starts.unique {s' : Settings} {found' : List Scan.Namespace} (h : Starts w o s found)
    (h' : Starts w o s' found') : s' = s ∧ found' = found := by
  obtain rfl := Except.ok.inj (h.settings.symm.trans h'.settings)
  exact ⟨rfl, (Except.ok.inj (h.components.symm.trans h'.components)).symm⟩

theorem Summary.exitCode_migration (r : Report) :
    (Summary.migration r).status.exitCode = if r.failureCount = 0 then 0 else 1 := by
  unfold Summary.status
  rw [show (Summary.migration r).errorCount = r.failureCount from rfl]
  by_cases hnone : r.failureCount = 0
  · simp [hnone, Status.exitCode]
  · rw [if_pos (Nat.pos_of_ne_zero hnone), if_neg hnone, Status.exitCode]

/-- A migration that starts ends with its report, and the failures in it decide the exit code. -/
theorem run_of_starts (h : Starts w o s found) (e : Engine) (color : Bool) :
    ∃ done, migrate e s w = .ok done ∧
      (run e color w (some (.migrate o))).workspace = done.workspace ∧
      (run e color w (some (.migrate o))).status.exitCode =
        if done.report.failureCount = 0 then 0 else 1 := by
  obtain ⟨done, hdone⟩ := Run.exists_migrate_eq_ok (e := e) h.components
  refine ⟨done, hdone, ?_⟩
  simp only [run, runMigrate, h.settings, hdone, ended, true_and]
  exact Summary.exitCode_migration done.report

theorem run_of_not_starts (h : ¬ ∃ s found, Starts w o s found) (e : Engine) (color : Bool) :
    (run e color w (some (.migrate o))).workspace = w ∧
      (run e color w (some (.migrate o))).status.exitCode = 2 := by
  simp only [run, runMigrate]
  cases hsettings : Settings.load w startDirectory o with
  | error cause => exact ⟨rfl, rfl⟩
  | ok s =>
      cases hcomponents : Scan.namespaces w s.componentsRoot s.only with
      | error cause =>
          simp only [migrate, hcomponents]
          exact ⟨rfl, rfl⟩
      | ok found => exact absurd ⟨s, found, hsettings, hcomponents⟩ h

end

/-- The exit code of a migration: two if it could not start, and then nothing was touched; if it was
to write, zero if its run was complete, and one if not. -/
theorem exitCode_of_migrate {read : String → String → Option Module}
    {translate : Catalog.Translator} {write : Writer} {w : Workspace} {o : Overrides}
    {ran : Ended} (hread : ∀ path, Component.ReadsImports (read path)) (hwrite : write.MayFail)
    (hw : w.WellFormed) (hrooted : w.Rooted)
    (hout : ∀ s, Settings.load w startDirectory o = .ok s → s.CatalogsOutside w) (color : Bool)
    (hran : run (.reading read translate write) color w (some (.migrate o)) = ran) :
    (ran.status.exitCode = 2 → ran.workspace = w) ∧
      (ran.status.exitCode = 2 ↔ ¬ ∃ s found, Starts w o s found) ∧
      (o.apply = true →
        (ran.status.exitCode = 0 ↔ ∃ s found, Starts w o s found ∧
          Complete (.reading read translate write) s found w ran.workspace) ∧
        (ran.status.exitCode = 1 ↔ ∃ s found, Starts w o s found ∧
          ¬ Complete (.reading read translate write) s found w ran.workspace)) := by
  by_cases hstarts : ∃ s found, Starts w o s found
  · obtain ⟨s, found, h⟩ := hstarts
    obtain ⟨done, hdone, hworkspace, hcode⟩ :=
      run_of_starts h (.reading read translate write) color
    rw [hran] at hworkspace hcode
    have hstarted : ran.status.exitCode ≠ 2 := by
      rw [hcode]
      split <;> simp
    refine ⟨fun htwo => absurd htwo hstarted,
      ⟨fun htwo => absurd htwo hstarted, fun hnot => absurd ⟨s, found, h⟩ hnot⟩, ?_⟩
    intro happly
    have hcomplete := Run.complete_iff hwrite (h.apply_eq.trans happly) hw hrooted
      (hout s h.settings) (Engine.migratesOnce_reading hread translate write)
      (Engine.takesTexts_reading read translate write) h.components hdone
    rw [← hworkspace] at hcomplete
    have hall : ∀ P : Settings → List Scan.Namespace → Prop,
        (∃ s found, Starts w o s found ∧ P s found) ↔ P s found := by
      intro P
      constructor
      · rintro ⟨s', found', h', hP⟩
        obtain ⟨rfl, rfl⟩ := h.unique h'
        exact hP
      · exact fun hP => ⟨s, found, h, hP⟩
    rw [hall, hall, hcomplete, hcode]
    by_cases hnone : done.report.failureCount = 0 <;> simp [hnone]
  · obtain ⟨hworkspace, hcode⟩ := run_of_not_starts hstarts (.reading read translate write) color
    rw [hran] at hworkspace hcode
    have hnever : ∀ P : Settings → List Scan.Namespace → Prop,
        ¬ ∃ s found, Starts w o s found ∧ P s found := by
      rintro P ⟨s, found, h, -⟩
      exact hstarts ⟨s, found, h⟩
    refine ⟨fun _ => hworkspace, ⟨fun _ => hstarts, fun _ => hcode⟩, fun _ => ?_⟩
    simp [hcode, hnever]

/-- A project with one component and a configuration that names the integration module. -/
def configuredProject : Workspace where
  disk := ⟨[([".i18nizerc.json"], .file (.text "\x7b\"i18nModule\": \"it's\"\x7d") 0o644),
    (["src"], .directory 0o755), (["src", "components"], .directory 0o755),
    (["src", "components", "Common"], .directory 0o755),
    (["src", "components", "Common", "Greeting.jsx"],
      .file (.text Component.greeting) 0o644)]⟩
  directory := []

/-- A writer that cannot replace the catalog of one locale. -/
def withoutGerman : Writer := Run.failsAt "./public/static/locales/de/Common.json"

/-- How the catalogs are saved, after the component was written. -/
def configuredSave (write : Writer) : Workspace × Except WriteError (List Catalog.Written) :=
  Run.greetingSettings.store.saveNamespace write Mock.shuffled
    (write configuredProject Run.greetingPath (.text Component.migratedGreeting)).1 "Common"
    ⟨[], [("de", [])]⟩ (Catalog.extend [] [⟨"", "hi_you", "Hi you"⟩])

structure ConfiguredFacts : Prop where
  settings : (Settings.load configuredProject startDirectory { apply := true }).toOption =
    some Run.greetingSettings
  listed : (configuredProject.list "./src/components").toOption =
    some [("Common", .directory 0o755)]
  files : (Scan.regularFiles configuredProject
    (Path.join "./src/components" "Common")).toOption = some [Run.greetingPath]
  source : (configuredProject.readText Run.greetingPath).toOption = some Component.greeting
  missing : ∀ path ∈ Run.greetingSettings.store.paths "Common", configuredProject.has path = false
  outside : ∀ path ∈ Run.greetingSettings.store.paths "Common",
    ¬ configuredProject.place "./src/components" <+: configuredProject.place path
  written : ∀ write ∈ [Workspace.replace, withoutGerman],
    (write configuredProject Run.greetingPath (.text Component.migratedGreeting)).2 = none
  saved : (configuredSave Workspace.replace).2.toOption.isSome = true
  stopped : (configuredSave withoutGerman).2.toOption.isSome = false

theorem configuredFacts : ConfiguredFacts := by
  refine (fun ⟨a, b, c, d, f, g, h, i, j⟩ => ⟨a, b, c, d, f, g, h, i, j⟩ :
    _ ∧ _ ∧ _ ∧ _ ∧ _ ∧ _ ∧ _ ∧ _ ∧ _ → _) ?_
  decide +kernel

theorem wellFormed_configuredProject : configuredProject.WellFormed where
  disk := ⟨by decide, by decide⟩
  directory := by
    intro name hname
    cases hname

theorem rooted_configuredProject : configuredProject.Rooted :=
  Workspace.rooted_of_nodes (by decide) (by decide)

theorem starts_configuredProject : Starts configuredProject { apply := true }
    Run.greetingSettings [⟨"Common", Path.join "./src/components" "Common"⟩] where
  settings := eq_ok_of_toOption configuredFacts.settings
  components :=
    Scan.namespaces_of_list ["Common"] (eq_ok_of_toOption configuredFacts.listed) (by decide)

theorem catalogsOutside_configuredProject (s : Settings)
    (hs : Settings.load configuredProject startDirectory { apply := true } = .ok s) :
    s.CatalogsOutside configuredProject := by
  obtain rfl := Except.ok.inj (starts_configuredProject.settings.symm.trans hs)
  apply Settings.catalogsOutside_of_namespaces starts_configuredProject.components
  intro n hn
  obtain rfl := List.mem_singleton.mp hn
  exact configuredFacts.outside

theorem sourceFiles_configuredProject :
    Scan.sourceFiles configuredProject Run.greetingSettings.extensions
        (.ofEntries Run.greetingSettings.componentsRoot Run.greetingSettings.ignores)
        (Path.join "./src/components" "Common") = ⟨[Run.greetingPath], []⟩ := by
  refine Scan.sourceFiles_of_regularFiles (eq_ok_of_toOption configuredFacts.files) ?_
  decide +kernel

/-- The component is migrated, and then the catalogs decide the exit code. -/
theorem exitCode_configuredProject (read : String → String → Option Module) {write : Writer}
    {m : Component.Migrated}
    (hm : Component.migrateWith (read Run.greetingPath) Run.greetingSettings.toOptions "Common"
      Component.greeting = .ok (.migrated m))
    (hcode : m.code = Component.migratedGreeting)
    (hentries : m.entries = [⟨"", "hi_you", "Hi you"⟩])
    (hwritten : (write configuredProject Run.greetingPath
      (.text Component.migratedGreeting)).2 = none) :
    (run (.reading read Mock.shuffled write) false configuredProject
        (some (.migrate { apply := true }))).status.exitCode =
      if (configuredSave write).2.toOption.isSome then 0 else 1 := by
  have hexisting : Run.greetingSettings.store.loadExisting configuredProject "Common" =
      .ok ⟨[], [("de", [])]⟩ :=
    Catalog.Store.loadExisting_of_missing configuredFacts.missing
  rw [← hcode] at hwritten
  have hsaved : Run.greetingSettings.store.saveNamespace write Mock.shuffled
      (write configuredProject Run.greetingPath (.text m.code)).1 "Common" ⟨[], [("de", [])]⟩
      (Catalog.extend [] m.entries) = configuredSave write := by
    rw [hcode, hentries, configuredSave]
  obtain ⟨r, hturn, -, hstatus, hreports⟩ := Run.migrateFiles_single
    (e := .reading read Mock.shuffled write) (s := Run.greetingSettings) rfl
    (Run.outcome_eq_ok (eq_ok_of_toOption configuredFacts.source) hm) hexisting
    (eq_mk_of_snd_eq hwritten) (by simp [hentries]) (hsaved.trans (Prod.eta _).symm)
  obtain ⟨done, hdone, -, hnamespaces⟩ := Run.migrate_single
    (e := .reading read Mock.shuffled write) (s := Run.greetingSettings)
    starts_configuredProject.components sourceFiles_configuredProject hturn
  obtain ⟨done', hdone', -, hexit⟩ :=
    run_of_starts starts_configuredProject (.reading read Mock.shuffled write) false
  obtain rfl := Except.ok.inj (hdone.symm.trans hdone')
  have hsound : ∀ f ∈ r.files, f.status.isFailed = false := by
    intro f hf
    have hmem : f.status ∈ r.files.map (·.status) := List.mem_map_of_mem hf
    rw [hstatus] at hmem
    rw [List.mem_singleton.mp hmem]
    rfl
  have hcount : done.report.failureCount = 0 ↔ r.catalogError = none := by
    rw [Report.failureCount_eq_zero_iff, hnamespaces]
    simpa using fun _ => hsound
  rw [hexit]
  cases hresult : (configuredSave write).2 with
  | ok written =>
      rw [hresult] at hreports
      rw [if_pos (hcount.mpr hreports.2)]
      rfl
  | error cause =>
      rw [hresult] at hreports
      rw [if_neg (by simp [hcount, show r.catalogError = _ from hreports.2])]
      rfl

/-- The command succeeds if all can be written, and fails if the catalog of one locale cannot be. -/
theorem configuredProject_exitCodes : ∃ ran stopped,
    run (.reading (fun _ => Component.readGreeting) Mock.shuffled Workspace.replace) false
        configuredProject (some (.migrate { apply := true })) = ran ∧
      ran.status.exitCode = 0 ∧
      (∃ s found, Starts configuredProject { apply := true } s found ∧
        Complete (.reading (fun _ => Component.readGreeting) Mock.shuffled Workspace.replace) s
          found configuredProject ran.workspace) ∧
      run (.reading (fun _ => Component.readGreeting) Mock.shuffled withoutGerman) false
        configuredProject (some (.migrate { apply := true })) = stopped ∧
      stopped.status.exitCode = 1 ∧
      ∃ s found, Starts configuredProject { apply := true } s found ∧
        ¬ Complete (.reading (fun _ => Component.readGreeting) Mock.shuffled withoutGerman) s
          found configuredProject stopped.workspace := by
  obtain ⟨m, hm, hcode, hentries⟩ := Component.migrateWith_greeting
  have hzero := exitCode_configuredProject (fun _ => Component.readGreeting) hm hcode hentries
    (configuredFacts.written Workspace.replace (by simp))
  have hone := exitCode_configuredProject (fun _ => Component.readGreeting) hm hcode hentries
    (configuredFacts.written withoutGerman (by simp))
  rw [configuredFacts.saved, if_pos rfl] at hzero
  rw [configuredFacts.stopped, if_neg Bool.false_ne_true] at hone
  obtain ⟨-, -, hran⟩ := exitCode_of_migrate (fun _ => Component.readsImports_readGreeting)
    Writer.mayFail_replace wellFormed_configuredProject rooted_configuredProject
    catalogsOutside_configuredProject false rfl
  obtain ⟨-, -, hstopped⟩ := exitCode_of_migrate (fun _ => Component.readsImports_readGreeting)
    (Run.mayFail_failsAt _) wellFormed_configuredProject rooted_configuredProject
    catalogsOutside_configuredProject false rfl
  exact ⟨_, _, rfl, hzero, (hran rfl).1.mp hzero, rfl, hone, (hstopped rfl).2.mp hone⟩

end Phrasebook.Command
