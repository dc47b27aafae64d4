import Phrasebook.Proofs.Run.DryRun

/-!
Which catalogs a run replaces, and which of them its report names.

The catalogs of a namespace are replaced one after the other, up to the first that cannot be. If all
of them can be, the report names them all. If one cannot be, the report names the failure and none
of the catalogs that were replaced before it.
-/

namespace Phrasebook

open Disk (Content Location)

/-- The paths at which a writer replaced a file on the way from a workspace to another, in their
order. It may have failed at others in between. -/
inductive Writer.Replaces (write : Writer) : Workspace → List String → Workspace → Prop
  | nothing (w : Workspace) : Replaces write w [] w
  | file {w next w' : Workspace} {path : String} {content : Content} {paths : List String}
      (hwritten : write w path content = (next, none)) (hrest : Replaces write next paths w') :
      Replaces write w (path :: paths) w'
  | failure {w next w' : Workspace} {path : String} {content : Content} {cause : WriteError}
      {paths : List String} (hfailed : write w path content = (next, some cause))
      (hrest : Replaces write next paths w') : Replaces write w paths w'

namespace Writer.Replaces

variable {write : Writer} {w w' w'' : Workspace} {paths paths' : List String}

theorem trans (h : write.Replaces w paths w') (h' : write.Replaces w' paths' w'') :
    write.Replaces w (paths ++ paths') w'' := by
  induction h with
  | nothing w => exact h'
  | file hwritten _ ih => exact .file hwritten (ih h')
  | failure hfailed _ ih => exact .failure hfailed (ih h')

theorem changes (hwrite : write.MayFail) (h : write.Replaces w paths w') (hw : w.WellFormed) :
    w.Changes (paths.map w.place) w' := by
  induction h with
  | nothing w => exact .refl hw
  | file hwritten _ ih =>
      have hfirst := (hwrite.changes_of_success hw hwritten).1
      have hrest := ih (hfirst.wellFormed hw)
      rw [funext (Workspace.place_eq_of_directory hfirst.directory)] at hrest
      exact (hfirst.mono (by simp)).trans (hrest.mono (by simp))
  | failure hfailed _ ih =>
      have hfirst := hwrite.changes_of_failure hw hfailed
      have hrest := ih (hfirst.wellFormed hw)
      rw [funext (Workspace.place_eq_of_directory hfirst.directory)] at hrest
      exact (hfirst.mono (by simp)).trans hrest

/-- What was replaced is a file, and stays one. -/
theorem exists_contentAt (hwrite : write.MayFail) (h : write.Replaces w paths w')
    (hw : w.WellFormed) {path : String}
    (hpath : path ∈ paths ∨ ∃ content, w.contentAt path = some content) :
    ∃ content, w'.contentAt path = some content := by
  induction h with
  | nothing w =>
      rcases hpath with hpath | hpath
      · cases hpath
      · exact hpath
  | @file w next w' first content paths hwritten _ ih =>
      obtain ⟨hfirst, hcontent⟩ := hwrite.changes_of_success hw hwritten
      refine ih (hfirst.wellFormed hw) ?_
      by_cases hplace : w.place path = w.place first
      · refine Or.inr ⟨content, ?_⟩
        rw [Workspace.contentAt, hfirst.place_eq, hplace, ← hfirst.place_eq]
        exact hcontent
      · rcases hpath with hpath | ⟨content', hcontent'⟩
        · rcases List.mem_cons.mp hpath with rfl | hpath
          · exact absurd rfl hplace
          · exact Or.inl hpath
        · refine Or.inr ⟨content', ?_⟩
          rw [hfirst.contentAt_eq hw (by simpa using hplace), hcontent']
  | failure hfailed _ ih =>
      have hfirst := hwrite.changes_of_failure hw hfailed
      refine ih (hfirst.wellFormed hw) (hpath.imp_right ?_)
      rintro ⟨content, hcontent⟩
      exact ⟨content, by rw [hfirst.contentAt_eq hw (by simp), hcontent]⟩

end Writer.Replaces

namespace Run

/-- The files of a namespace that were translated. -/
def translatedPaths (files : List FileReport) : List String :=
  (files.filter (·.status.isTranslated)).map (·.path)

theorem translatedPaths_append (files more : List FileReport) :
    translatedPaths (files ++ more) = translatedPaths files ++ translatedPaths more := by
  simp [translatedPaths]

theorem translatedPaths_subset (files : List FileReport) :
    translatedPaths files ⊆ files.map (·.path) := by
  intro path hpath
  obtain ⟨f, hf, rfl⟩ := List.mem_map.mp hpath
  exact List.mem_map_of_mem (List.mem_filter.mp hf).1

/-- What the report of a namespace says about its catalogs that were replaced. -/
structure Names (s : Settings) (r : NamespaceReport) (replaced : List String) : Prop where
  /-- They are the first ones in the order of the locales. -/
  inOrder : replaced <+: s.store.paths r.name
  /-- Without a failure the report names them. -/
  named : r.catalogError = none → r.written.map (·.path) = replaced
  /-- With a failure it names none of them, and they are not all. -/
  unnamed : r.catalogError ≠ none → r.written = [] ∧ replaced ≠ s.store.paths r.name

theorem names_nil {s : Settings} {r : NamespaceReport} (h : Reports r (.ok [])) :
    Names s r [] where
  inOrder := List.nil_prefix
  named _ := by rw [h.1]; rfl
  unnamed hfailed := absurd h.2 hfailed

end Run

/-- Catalogs are replaced up to the first that cannot be. -/
theorem Catalog.Store.replaces_saveLocales (s : Store) (write : Writer) (namespaceName : String)
    (w : Workspace) (catalogs : List (String × Json.Fields)) :
    ∃ replaced, write.Replaces w replaced (s.saveLocales write namespaceName w catalogs).1 ∧
      replaced <+: catalogs.map (fun c => s.path namespaceName c.1) ∧
      ((∃ written, (s.saveLocales write namespaceName w catalogs).2 = .ok written ∧
          written.map (·.path) = replaced) ∨
        (∃ cause, (s.saveLocales write namespaceName w catalogs).2 = .error cause) ∧
          replaced ≠ catalogs.map (fun c => s.path namespaceName c.1)) := by
  induction catalogs generalizing w with
  | nil => exact ⟨[], .nothing w, List.nil_prefix, Or.inl ⟨[], rfl, rfl⟩⟩
  | cons catalog rest ih =>
      obtain ⟨locale, fields⟩ := catalog
      rw [saveLocales]
      rcases hsaved : save write w (s.path namespaceName locale) fields with ⟨next, _ | cause⟩
      · obtain ⟨replaced, hreplaces, hprefix, hresult⟩ := ih next
        refine ⟨s.path namespaceName locale :: replaced, .file hsaved hreplaces,
          List.prefix_cons_inj _ |>.mpr hprefix, ?_⟩
        rcases hresult with ⟨written, hok, rfl⟩ | ⟨⟨cause, herror⟩, hne⟩
        · exact Or.inl ⟨⟨locale, s.path namespaceName locale, keyCount fields⟩ :: written,
            by simp only [hok, Except.map], rfl⟩
        · refine Or.inr ⟨⟨cause, by simp only [herror, Except.map]⟩, fun heq => hne ?_⟩
          exact (List.cons.inj heq).2
      · exact ⟨[], .failure hsaved (.nothing next), List.nil_prefix,
          Or.inr ⟨⟨cause, rfl⟩, List.cons_ne_nil _ _ |>.symm⟩⟩

namespace Run

variable {e : Engine} {s : Settings}

theorem replaces_advance (happly : s.apply = true) (namespaceName : String)
    (blocked : Option Catalog.LoadError) (p : Progress) (path : String)
    (result : Except FileError Component.Outcome) :
    ∃ report : FileReport,
      (advance e s namespaceName blocked p (path, result)).files = p.files ++ [report] ∧
      e.write.Replaces p.workspace (translatedPaths [report])
        (advance e s namespaceName blocked p (path, result)).workspace := by
  rcases result with cause | ⟨reason, diagnostics⟩ | m
  · exact ⟨_, rfl, .nothing _⟩
  · exact ⟨_, rfl, .nothing _⟩
  rcases blocked with _ | cause
  · rcases hresult : e.write p.workspace path (.text m.code) with ⟨next, _ | cause⟩
    · simp only [advance, place, happly, if_true, hresult, Option.map_none]
      exact ⟨_, rfl, .file hresult (.nothing next)⟩
    · simp only [advance, place, happly, if_true, hresult, Option.map_some]
      exact ⟨_, rfl, .failure hresult (.nothing next)⟩
  · exact ⟨_, rfl, .nothing _⟩

/-- Along the files of a namespace, those that are translated are replaced. -/
theorem replaces_progress (happly : s.apply = true) (namespaceName : String)
    (blocked : Option Catalog.LoadError) (w : Workspace) (files : List String) :
    e.write.Replaces w (translatedPaths (progress e s namespaceName blocked w files).files)
      (progress e s namespaceName blocked w files).workspace := by
  unfold progress
  generalize files.map (fun path => (path, outcome e s namespaceName w path)) = outcomes
  suffices hfold : ∀ p : Progress, e.write.Replaces w (translatedPaths p.files) p.workspace →
      e.write.Replaces w
        (translatedPaths (outcomes.foldl (advance e s namespaceName blocked) p).files)
        (outcomes.foldl (advance e s namespaceName blocked) p).workspace from
    hfold _ (.nothing w)
  induction outcomes with
  | nil => exact fun p hp => hp
  | cons file outcomes ih =>
      intro p hp
      obtain ⟨path, result⟩ := file
      obtain ⟨report, hfiles, hreplaces⟩ :=
        replaces_advance (e := e) happly namespaceName blocked p path result
      apply ih
      rw [hfiles, translatedPaths_append]
      exact hp.trans hreplaces

theorem replaces_finish (happly : s.apply = true) {n r : NamespaceReport}
    (hn : Reports n (.ok [])) {existing : Catalog.Existing} {fresh : Json.Fields}
    {w₀ w w' : Workspace} (hexisting : s.store.loadExisting w₀ n.name = .ok existing)
    (h : finish e s n existing fresh w = (w', r)) :
    ∃ replaced, e.write.Replaces w replaced w' ∧ Names s r replaced := by
  obtain ⟨hname, -, result, hsaved, hreports⟩ := finish_cases happly hn h
  obtain ⟨replaced, hreplaces, hprefix, hresult⟩ := s.store.replaces_saveLocales e.write n.name w
    (s.store.updated e.translate existing fresh)
  rw [Catalog.Store.saveNamespace] at hsaved
  rw [Catalog.Store.map_path_updated hexisting] at hprefix hresult
  rw [hsaved] at hreplaces hresult
  rw [← hname] at hprefix hresult
  refine ⟨replaced, hreplaces, hprefix, ?_, ?_⟩
  · intro hnone
    rcases hresult with ⟨written, rfl, hwritten⟩ | ⟨⟨cause, rfl⟩, -⟩
    · rw [hreports.1, hwritten]
    · rw [hreports.2] at hnone
      cases hnone
  · intro hsome
    rcases hresult with ⟨written, rfl, -⟩ | ⟨⟨cause, rfl⟩, hne⟩
    · exact absurd hreports.2 hsome
    · exact ⟨hreports.1, hne⟩

/-- The turn of a namespace replaces the files that it translates, and then catalogs. -/
theorem replaces_migrateFiles (happly : s.apply = true) {namespaceName : String}
    {found : Scan.Found} {w w' : Workspace} {r : NamespaceReport}
    (h : migrateFiles e s namespaceName found w = (w', r)) :
    ∃ replaced, e.write.Replaces w (translatedPaths r.files ++ replaced) w' ∧
      Names s r replaced := by
  obtain ⟨blocked, n, rfl, hfiles, hn, hcases⟩ := migrateFiles_cases e s namespaceName found w
  have hsources := replaces_progress (e := e) happly n.name blocked w found.files
  rw [← hfiles] at hsources
  rcases hcases with ⟨-, hturn⟩ | ⟨existing, hexisting, -, hturn⟩
  · rw [hturn] at h
    cases h
    exact ⟨[], by rwa [List.append_nil], names_nil hn⟩
  · rw [hturn] at h
    obtain ⟨-, hfiles', -⟩ := finish_cases happly hn h
    obtain ⟨replaced, hreplaces, hnames⟩ := replaces_finish happly hn hexisting h
    rw [← hfiles'] at hsources
    exact ⟨replaced, hsources.trans hreplaces, hnames⟩

/-- A run goes on from turn to turn. -/
theorem replaces_migrateNamespaces (happly : s.apply = true) {rules : Scan.IgnoreRules}
    {namespaces : List Scan.Namespace} {w last : Workspace} {reports : List NamespaceReport}
    {warnings : List Scan.Warning}
    (h : migrateNamespaces e s rules namespaces w = (last, reports, warnings)) :
    ∃ turns : List (NamespaceReport × List String), turns.map (·.1) = reports ∧
      e.write.Replaces w (turns.flatMap fun t => translatedPaths t.1.files ++ t.2) last ∧
      ∀ t ∈ turns, Names s t.1 t.2 := by
  induction namespaces generalizing w reports warnings with
  | nil =>
      rw [migrateNamespaces] at h
      cases h
      exact ⟨[], rfl, .nothing _, by simp⟩
  | cons n rest ih =>
      rw [migrateNamespaces] at h
      simp only at h
      rcases hturn : migrateFiles e s n.name (Scan.sourceFiles w s.extensions rules n.directory) w
        with ⟨next, r⟩
      rcases hrest : migrateNamespaces e s rules rest next with ⟨last', reports', warnings'⟩
      simp only [hturn, hrest] at h
      cases h
      obtain ⟨replaced, hreplaces, hnames⟩ := replaces_migrateFiles happly hturn
      obtain ⟨turns, hturns, hreplaces', hnames'⟩ := ih hrest
      refine ⟨(r, replaced) :: turns, by rw [List.map_cons, hturns], ?_, ?_⟩
      · rw [List.flatMap_cons]
        exact hreplaces.trans hreplaces'
      · intro t ht
        rcases List.mem_cons.mp ht with rfl | ht
        · exact hnames
        · exact hnames' t ht

theorem replaces_migrate (happly : s.apply = true) {w : Workspace} {done : Finished}
    (h : migrate e s w = .ok done) :
    ∃ turns : List (NamespaceReport × List String), turns.map (·.1) = done.report.namespaces ∧
      e.write.Replaces w (turns.flatMap fun t => translatedPaths t.1.files ++ t.2)
        done.workspace ∧
      ∀ t ∈ turns, Names s t.1 t.2 := by
  unfold migrate at h
  split at h
  · cases h
  rename_i found hfound
  simp only at h
  rcases hrun : migrateNamespaces e s (.ofEntries s.componentsRoot s.ignores) found w with
    ⟨last, reports, warnings⟩
  rw [hrun] at h
  cases h
  exact replaces_migrateNamespaces happly hrun

/-- A run replaces the files that it translates, and catalogs of their namespaces. The report of a
namespace names just the catalogs that were replaced, unless one of them could not be: then it names
none, though those before it were replaced. All other catalogs hold what they held. -/
theorem migrate_names_replaced {w : Workspace} {done : Finished} (hwrite : e.write.MayFail)
    (happly : s.apply = true) (hw : w.WellFormed) (hout : s.CatalogsOutside w)
    (h : migrate e s w = .ok done) :
    ∃ turns : List (NamespaceReport × List String), turns.map (·.1) = done.report.namespaces ∧
      e.write.Replaces w (turns.flatMap fun t => translatedPaths t.1.files ++ t.2)
        done.workspace ∧
      (∀ t ∈ turns, Names s t.1 t.2 ∧
        ∀ path ∈ t.2, ∃ content, done.workspace.contentAt path = some content) ∧
      ∀ r ∈ done.report.namespaces, ∀ path ∈ s.store.paths r.name,
        (∀ t ∈ turns, w.place path ∉ t.2.map w.place) →
          done.workspace.contentAt path = w.contentAt path := by
  obtain ⟨turns, hturns, hreplaces, hnames⟩ := replaces_migrate happly h
  obtain ⟨-, hrun, -⟩ := turns_of_migrate hwrite happly hw hout h
  refine ⟨turns, hturns, hreplaces, fun t ht => ⟨hnames t ht, fun path hpath => ?_⟩, ?_⟩
  · refine hreplaces.exists_contentAt hwrite hw (Or.inl ?_)
    exact List.mem_flatMap.mpr ⟨t, ht, List.mem_append_right _ hpath⟩
  intro r hr path hpath hfree
  refine (hreplaces.changes hwrite hw).contentAt_eq hw fun hmem => ?_
  obtain ⟨replaced, hreplaced, hplace⟩ := List.mem_map.mp hmem
  obtain ⟨t, ht, hreplaced⟩ := List.mem_flatMap.mp hreplaced
  rcases List.mem_append.mp hreplaced with hsource | hcatalog
  · -- A source file lies below the directory of components, and a catalog does not.
    obtain ⟨n, _, _, hturn⟩ := hrun r hr
    obtain ⟨n', _, _, hturn'⟩ := hrun t.1 (hturns ▸ List.mem_map_of_mem ht)
    have hname := (hturn.changes hwrite happly hw).1
    obtain ⟨hname', -, hsettled⟩ := hturn'.changes hwrite happly hw
    have hscanned : replaced ∈ scanned s w n'.name :=
      hsettled.paths ▸ translatedPaths_subset _ hsource
    have hbelow := hturn'.proper.prefix_of_mem_scanned hw hscanned
    rw [hplace] at hbelow
    refine hturn.proper.outside (w.place path) ?_ ((List.prefix_append _ _).trans hbelow)
    exact List.mem_map_of_mem (hname ▸ hpath)
  · exact hfree t ht (hplace ▸ List.mem_map_of_mem hcatalog)

/-- A file in the place of the directory of a locale. -/
def hinderedProject : Workspace where
  disk := ⟨[(["src"], .directory 0o755), (["src", "components"], .directory 0o755),
    (["src", "components", "Common"], .directory 0o755),
    (["src", "components", "Common", "Note.jsx"], .file (.text note) 0o644),
    (["locales"], .directory 0o755), (["locales", "de"], .file (.text "") 0o644)]⟩
  directory := []

/-- How the catalogs are saved, after the file was written. -/
def hinderedSave : Workspace × Except WriteError (List Catalog.Written) :=
  (noteSettings "locales").store.saveNamespace Workspace.replace Mock.shuffled
    (Workspace.replace hinderedProject (notePath "Common") (.text migratedNote)).1 "Common"
    ⟨[], [("de", [])]⟩ (Catalog.extend [] [noteEntry])

structure HinderedFacts : Prop where
  listed : (hinderedProject.list "./src/components").toOption =
    some [("Common", .directory 0o755)]
  kept : (!(Scan.IgnoreRules.ofEntries "./src/components" []).ignores (notePath "Common") &&
    Scan.hasExtension ({} : Settings).extensions (notePath "Common")) = true
  found : (Scan.regularFiles hinderedProject (Path.join "./src/components" "Common")).toOption =
    some [notePath "Common"]
  source : (hinderedProject.readText (notePath "Common")).toOption = some note
  written : (Workspace.replace hinderedProject (notePath "Common") (.text migratedNote)).2 = none
  missing : ∀ path ∈ (noteSettings "locales").store.paths "Common",
    hinderedProject.has path = false
  outside : ∀ path ∈ (noteSettings "locales").store.paths "Common",
    ¬ hinderedProject.place "./src/components" <+: hinderedProject.place path
  failed : hinderedSave.2.toOption.isNone = true
  before : hinderedProject.contentAt "locales/en/Common.json" = none
  after : (hinderedSave.1.contentAt "locales/en/Common.json").isSome = true

theorem hinderedFacts : HinderedFacts := by
  -- The fields share the writes of the run, so they are evaluated together.
  refine (fun ⟨a, b, c, d, e, f, g, h, i, j⟩ => ⟨a, b, c, d, e, f, g, h, i, j⟩ :
    _ ∧ _ ∧ _ ∧ _ ∧ _ ∧ _ ∧ _ ∧ _ ∧ _ ∧ _ → _) ?_
  decide +kernel

theorem wellFormed_hinderedProject : hinderedProject.WellFormed where
  disk := ⟨by decide, by decide⟩
  directory := by
    intro name hname
    cases hname

theorem namespaces_hinderedProject : Scan.namespaces hinderedProject "./src/components" [] =
    .ok [⟨"Common", Path.join "./src/components" "Common"⟩] :=
  Scan.namespaces_of_list ["Common"] (eq_ok_of_toOption hinderedFacts.listed) (by decide)

theorem catalogsOutside_hinderedProject :
    (noteSettings "locales").CatalogsOutside hinderedProject := by
  refine Settings.catalogsOutside_of_namespaces namespaces_hinderedProject fun n hn path hpath => ?_
  obtain rfl := List.mem_singleton.mp hn
  exact hinderedFacts.outside path hpath

/-- The run writes the first catalog and fails at the second. -/
theorem migrate_hinderedProject (read : String → String → Option Script.Module)
    (hread : ∀ n ∈ ["Common", "Shop"], read (notePath n) note = some noteModule ∧
      (read (notePath n) migratedNote).isSome = true) :
    ∃ done r message, migrate (.reading read Mock.shuffled Workspace.replace)
        (noteSettings "locales") hinderedProject = .ok done ∧
      done.workspace = hinderedSave.1 ∧ done.report.namespaces = [r] ∧ r.written = [] ∧
      r.catalogError = some message := by
  obtain ⟨m, hm, hcode, hentries⟩ := outcome_note (s := noteSettings "locales") read hread rfl
    List.mem_cons_self hinderedFacts.source
  have hwritten : Workspace.replace hinderedProject (notePath "Common") (.text m.code) =
      ((Workspace.replace hinderedProject (notePath "Common") (.text migratedNote)).1, none) := by
    rw [hcode]
    exact eq_mk_of_snd_eq hinderedFacts.written
  obtain ⟨cause, hcause⟩ := exists_error_of_toOption hinderedFacts.failed
  have hsaved : (noteSettings "locales").store.saveNamespace Workspace.replace Mock.shuffled
      (Workspace.replace hinderedProject (notePath "Common") (.text migratedNote)).1 "Common"
      ⟨[], [("de", [])]⟩ (Catalog.extend [] m.entries) = (hinderedSave.1, .error cause) := by
    rw [hentries]
    exact eq_mk_of_snd_eq hcause
  obtain ⟨r, hturn, -, -, hreports⟩ := migrateFiles_single
    (e := .reading read Mock.shuffled Workspace.replace) (s := noteSettings "locales") rfl hm
    (Catalog.Store.loadExisting_of_missing hinderedFacts.missing) hwritten (by simp [hentries])
    hsaved
  have hfound : Scan.sourceFiles hinderedProject (noteSettings "locales").extensions
      (.ofEntries "./src/components" []) (Path.join "./src/components" "Common") =
        ⟨[notePath "Common"], []⟩ :=
    Scan.sourceFiles_of_regularFiles (eq_ok_of_toOption hinderedFacts.found) hinderedFacts.kept
  obtain ⟨done, hdone, hlast, hreport⟩ := migrate_single (s := noteSettings "locales")
    namespaces_hinderedProject hfound hturn
  exact ⟨done, r, cause.message, hdone, hlast, hreport, hreports⟩

/-- The catalog of the base locale is written, and no report names it. -/
theorem hinderedProject_unnamed :
    hinderedProject.WellFormed ∧ (noteSettings "locales").CatalogsOutside hinderedProject ∧
      ∃ done, migrate {} (noteSettings "locales") hinderedProject = .ok done ∧
        "locales/en/Common.json" ∈ (noteSettings "locales").store.paths "Common" ∧
        done.workspace.contentAt "locales/en/Common.json" ≠
          hinderedProject.contentAt "locales/en/Common.json" ∧
        ∀ r ∈ done.report.namespaces, r.written = [] := by
  obtain ⟨done, r, message, hdone, hlast, hreport, hwritten, -⟩ :=
    migrate_hinderedProject (fun path => Script.parse (.ofPath path)) parse_note
  refine ⟨wellFormed_hinderedProject, catalogsOutside_hinderedProject, done, hdone, by decide, ?_,
    ?_⟩
  · intro heq
    have hafter := hinderedFacts.after
    rw [← hlast, heq, hinderedFacts.before] at hafter
    cases hafter
  · rw [hreport]
    simpa using hwritten

/-- A run that fails at the second catalog has replaced the first one, at most. -/
theorem hinderedProject_names :
    ∃ done r replaced, migrate {} (noteSettings "locales") hinderedProject = .ok done ∧
      done.report.namespaces = [r] ∧ r.written = [] ∧
      Workspace.replace.Replaces hinderedProject (translatedPaths r.files ++ replaced)
        done.workspace ∧
      replaced <+: (noteSettings "locales").store.paths r.name ∧
      replaced ≠ (noteSettings "locales").store.paths r.name := by
  obtain ⟨done, r, message, hdone, -, hreport, hwritten, herror⟩ :=
    migrate_hinderedProject (fun path => Script.parse (.ofPath path)) parse_note
  obtain ⟨turns, hturns, hreplaces, hnames, -⟩ := migrate_names_replaced (e := {})
    Writer.mayFail_replace rfl wellFormed_hinderedProject catalogsOutside_hinderedProject hdone
  rw [hreport] at hturns
  obtain ⟨t, rfl, rfl⟩ := List.map_eq_singleton_iff.mp hturns
  obtain ⟨hnamed, -⟩ := hnames t (List.mem_singleton_self t)
  refine ⟨done, t.1, t.2, hdone, hreport, hwritten, ?_, hnamed.inOrder, ?_⟩
  · simpa using hreplaces
  · exact (hnamed.unnamed (by rw [herror]; simp)).2

end Run

end Phrasebook
