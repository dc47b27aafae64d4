import Phrasebook.Proofs.Component.Idempotence
import Phrasebook.Proofs.Run.Project

/-!
A run changes a file as a whole or not at all.

Whatever writes fail, every file that was looked at holds its old content or the whole code that
its text was migrated to, and the catalogs take up the texts of just those files that hold new
code. Nothing else on the disk is changed.
-/

namespace Phrasebook.Run

open Disk (Location)

/-- What a run that was to write leaves behind, whatever writes failed. -/
structure AllOrNothing (e : Engine) (s : Settings) (w : Workspace) (done : Finished) : Prop where
  /-- The report names all namespaces of the project. -/
  namespaces : ∃ found, Scan.namespaces w s.componentsRoot s.only = .ok found ∧
    done.report.namespaces.map (·.name) = found.map (·.name)
  /-- It names all source files of a namespace, in the order of paths. -/
  files : ∀ r ∈ done.report.namespaces, r.files.map (·.path) = scanned s w r.name ∧
    r.files.Pairwise fun f g => Path.le f.path g.path = true
  /-- A translated file holds the whole code of its migration, which can be read. -/
  translated : ∀ r ∈ done.report.namespaces, ∀ f ∈ r.files, f.status.isTranslated = true →
    ∃ source m, w.contentAt f.path = some (.text source) ∧
      Component.migrate s.toOptions f.path r.name source = .ok (.migrated m) ∧
      (Script.parse (.ofPath f.path) m.code).isSome = true ∧
      done.workspace.contentAt f.path = some (.text m.code)
  /-- A file that was skipped or failed holds what it held. -/
  kept : ∀ r ∈ done.report.namespaces, ∀ f ∈ r.files, f.status.isTranslated = false →
    done.workspace.contentAt f.path = w.contentAt f.path
  /-- The catalogs of a namespace take up the texts of its translated files. -/
  catalogs : ∀ r ∈ done.report.namespaces, CatalogsSettled e s w done.workspace r
  /-- A file that is neither a source file nor a catalog of a namespace holds what it held. -/
  elsewhere : ∀ loc, (∀ r ∈ done.report.namespaces, loc ∉ touched s w r) →
    done.workspace.disk.content? loc = w.disk.content? loc

theorem isSome_parse_of_migrate {options : Component.Options} {path namespaceName source : String}
    {m : Component.Migrated}
    (h : Component.migrate options path namespaceName source = .ok (.migrated m)) :
    (Script.parse (.ofPath path) m.code).isSome = true := by
  obtain ⟨_, _, -, -, hmigrated⟩ := Component.exists_of_migrateWith h
  obtain ⟨-, -, ⟨result, hresult⟩, -⟩ := Component.exists_of_migrateEligible hmigrated
  rw [hresult]
  rfl

/-- Every run that writes leaves each file as a whole: the old or the new one. -/
theorem migrate_allOrNothing {translate : Catalog.Translator} {write : Writer} {s : Settings}
    {w : Workspace} {done : Finished} (hwrite : write.MayFail) (happly : s.apply = true)
    (hw : w.WellFormed) (hout : s.CatalogsOutside w)
    (h : migrate { translate, write } s w = .ok done) :
    AllOrNothing { translate, write } s w done := by
  obtain ⟨hnames, hsettled, hchanges⟩ := settled_of_migrate hwrite happly hw hout h
  refine ⟨hnames, ?_, ?_, ?_, fun r hr => (hsettled r hr).catalogs, ?_⟩
  · intro r hr
    have hpaths := (hsettled r hr).paths
    have hsorted : (r.files.map (·.path)).Pairwise fun a b => Path.le a b = true := by
      rw [hpaths]
      exact Scan.pairwise_sourceFiles w _ _ _
    exact ⟨hpaths, List.pairwise_map.mp hsorted⟩
  · intro r hr f hf htranslated
    have hfile := (hsettled r hr).file f hf
    rw [FileSettled, if_pos htranslated] at hfile
    obtain ⟨m, hm, hcontent⟩ := hfile
    obtain ⟨source, hsource, hmigrate⟩ := exists_of_migration? hm
    exact ⟨source, m, hsource, hmigrate, isSome_parse_of_migrate hmigrate, hcontent⟩
  · intro r hr f hf huntranslated
    have hfile := (hsettled r hr).file f hf
    rw [FileSettled, huntranslated] at hfile
    exact hfile
  · intro loc hloc
    refine hchanges.disk.content?_eq hw.disk fun hmem => ?_
    obtain ⟨r, hr, htouched⟩ := List.mem_flatMap.mp hmem
    exact hloc r hr htouched

def greetingProject : Workspace where
  disk := ⟨[(["src"], .directory 0o755), (["src", "components"], .directory 0o755),
    (["src", "components", "Common"], .directory 0o755),
    (["src", "components", "Common", "Greeting.jsx"],
      .file (.text Component.greeting) 0o644)]⟩
  directory := []

/-- A writer that fails at one path. -/
def failsAt (path : String) : Writer := fun w path' content =>
  if path' = path then (w, some (.target path .busy)) else Workspace.replace w path' content

theorem mayFail_failsAt (path : String) : (failsAt path).MayFail := by
  intro w path' content hw
  by_cases hpath : path' = path
  · exact Or.inr ⟨w, .target path .busy, by simp [failsAt, hpath], .refl hw⟩
  · exact Or.inl (by simp [failsAt, hpath])

theorem namespaces_greetingProject :
    Scan.namespaces greetingProject "./src/components" [] =
      .ok [⟨"Common", Path.join "./src/components" "Common"⟩] := by
  have hlist : greetingProject.list "./src/components" = .ok [("Common", .directory 0o755)] :=
    eq_ok_of_toOption (by decide +kernel)
  exact Scan.namespaces_of_list ["Common"] hlist (by decide)

theorem wellFormed_greetingProject : greetingProject.WellFormed where
  disk := ⟨by decide, by decide⟩
  directory := by
    intro name hname
    cases hname

/-- A run that cannot write the catalog of one locale. -/
theorem greetingProject_allOrNothing :
    ∃ done, migrate { write := failsAt "./public/static/locales/de/Common.json" }
        { apply := true } greetingProject = .ok done ∧
      AllOrNothing { write := failsAt "./public/static/locales/de/Common.json" }
        { apply := true } greetingProject done := by
  have hout : Settings.CatalogsOutside { apply := true } greetingProject := by
    intro found hfound n hn path hpath
    rw [namespaces_greetingProject] at hfound
    obtain rfl := Except.ok.inj hfound
    obtain rfl := List.mem_singleton.mp hn
    revert path
    decide +kernel
  obtain ⟨done, hdone⟩ :=
    exists_migrate_eq_ok (e := { write := failsAt "./public/static/locales/de/Common.json" })
      (s := { apply := true }) namespaces_greetingProject
  exact ⟨done, hdone,
    migrate_allOrNothing (mayFail_failsAt _) rfl wellFormed_greetingProject hout hdone⟩

end Phrasebook.Run
