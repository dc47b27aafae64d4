import Phrasebook.Proofs.Catalog.Readback
import Phrasebook.Run.Settings

/-!
Locales whose catalogs could take the place of the base catalog.

A configuration is refused if it lists the base locale among the mock locales. Locales are compared
as texts, and two texts can name one directory. Where they do not, the base catalog is what its own
locale says at the end.
-/

namespace Phrasebook

open Catalog (Existing Translator Written Whole merge mock toText)
open Json (Fields)

theorem Config.baseLocale_not_mem {c : Config} (h : c.invalid? = none) :
    c.baseLocale ∉ c.mockLocales := by
  intro hmem
  unfold Config.invalid? at h
  split at h
  · cases h
  split at h
  · cases h
  split at h
  · cases h
  split at h
  · cases h
  · rename_i hnot
    exact hnot (List.contains_iff_mem.mpr hmem)

namespace Catalog.Store

variable {s : Store} {write : Writer} {translate : Translator} {w w' : Workspace}
  {namespaceName : String} {existing : Existing} {fresh : Fields} {written : List Written}

theorem eq_of_place_path_eq {locale other : String} (hlocale : Path.IsName locale)
    (hother : Path.IsName other) (hname : Path.IsName namespaceName)
    (h : w.place (s.path namespaceName locale) = w.place (s.path namespaceName other)) :
    locale = other := by
  rw [place_path w hlocale hname, place_path w hother hname] at h
  exact (List.cons.inj (List.append_cancel_left h)).1

/-- The base catalog is there at the end, if no mock locale has its catalog at the same place. -/
theorem node_base_saveNamespace (hwrite : write.MayFail) (hw : w.WellFormed)
    (hfree : ∀ locale ∈ s.mockLocales, w.place (s.path namespaceName locale) ≠
      w.place (s.path namespaceName s.baseLocale))
    (hloaded : s.loadExisting w namespaceName = .ok existing)
    (hsaved : s.saveNamespace write translate w namespaceName existing fresh =
      (w', .ok written)) :
    ∃ mode, w'.node (s.path namespaceName s.baseLocale) =
      .ok (.file (.text (toText (merge existing.base fresh))) mode) := by
  have hmocks : ∀ c ∈ existing.mocks.map (fun c =>
      (c.1, merge c.2 (mock translate c.1 (merge existing.base fresh)))), c.1 ∈ s.mockLocales := by
    intro c hc
    obtain ⟨old, hold, rfl⟩ := List.mem_map.mp hc
    rw [← map_fst_of_loadExisting hloaded]
    exact List.mem_map.mpr ⟨old, hold, rfl⟩
  rw [saveNamespace, updated] at hsaved
  refine node_saveLocales_cons hwrite hw (s.baseLocale, merge existing.base fresh) ?_ hsaved
  intro hmem
  obtain ⟨c, hc, hplace⟩ := List.mem_map.mp hmem
  exact hfree c.1 (hmocks c hc) hplace

end Catalog.Store

namespace Settings

/-- The settings of an accepted configuration, with no other spelling of the base locale among the
mock locales. -/
theorem base_saveNamespace {s : Settings} {write : Writer} {translate : Translator}
    {w w' : Workspace} {namespaceName : String} {existing : Existing} {fresh : Fields}
    {written : List Written} (hvalid : s.toConfig.invalid? = none)
    (hspelling : ∀ locale ∈ s.mockLocales,
      w.place (s.store.path namespaceName locale) =
        w.place (s.store.path namespaceName s.baseLocale) → locale = s.baseLocale)
    (hwrite : write.MayFail) (hw : w.WellFormed)
    (hloaded : s.store.loadExisting w namespaceName = .ok existing)
    (hsaved : s.store.saveNamespace write translate w namespaceName existing fresh =
      (w', .ok written)) :
    ∃ base, s.store.loadLocale w namespaceName s.baseLocale = .ok base ∧
      w'.readText (s.store.path namespaceName s.baseLocale) = .ok (toText (merge base fresh)) ∧
      (Whole (merge base fresh) →
        Catalog.load w' (s.store.path namespaceName s.baseLocale) =
          .ok (some (merge base fresh))) := by
  have hfree : ∀ locale ∈ s.mockLocales, w.place (s.store.path namespaceName locale) ≠
      w.place (s.store.path namespaceName s.baseLocale) := by
    intro locale hlocale hplace
    rw [hspelling locale hlocale hplace] at hlocale
    exact Config.baseLocale_not_mem hvalid hlocale
  obtain ⟨hbase, -⟩ := Catalog.Store.exists_of_loadExisting hloaded
  obtain ⟨mode, hnode⟩ :=
    Catalog.Store.node_base_saveNamespace hwrite hw hfree hloaded hsaved
  rw [show s.store.baseLocale = s.baseLocale from rfl] at hnode
  refine ⟨existing.base, hbase, ?_, fun hwhole => Catalog.load_of_node hwhole hnode⟩
  simp only [Workspace.readText, hnode]

/-- Settings with one mock locale. -/
def mocking (locale : String) : Settings := { localesRoot := "locales", mockLocales := [locale] }

/-- A workspace without a single file. -/
def bare : Workspace := ⟨⟨[]⟩, []⟩

def greetings : Fields := [("Card", .object [("hello", .string "Hello")])]

/-- What comes of saving the first texts of a project. -/
def greeted (locale : String) : Workspace × Except WriteError (List Written) :=
  (mocking locale).store.saveNamespace Workspace.replace Catalog.bracketed bare "Common"
    ⟨[], [(locale, [])]⟩ greetings

structure MockingFacts (locale : String) : Prop where
  valid : (mocking locale).toConfig.invalid? = none
  missing : ∀ path ∈ (mocking locale).store.paths "Common", bare.has path = false
  saved : (greeted locale).2.toOption.isSome = true

theorem mockingFacts : ∀ locale ∈ ["de", "./en"], MockingFacts locale := by
  intro locale hlocale
  refine (fun ⟨a, b, c⟩ => ⟨a, b, c⟩ : _ ∧ _ ∧ _ → _) ?_
  revert locale
  decide +kernel

theorem wellFormed_bare : bare.WellFormed where
  disk := ⟨by decide, by decide⟩
  directory := by
    intro name hname
    cases hname

theorem whole_greetings (hello : String) :
    Whole [("Card", .object [("hello", .string hello)])] :=
  Catalog.whole_text "Card" "hello" hello

theorem loadExisting_bare {locale : String} (h : MockingFacts locale) :
    (mocking locale).store.loadExisting bare "Common" = .ok ⟨[], [(locale, [])]⟩ :=
  Catalog.Store.loadExisting_of_missing h.missing

/-- A mock locale of another name leaves the base catalog alone. -/
theorem german_keeps_base : ∃ w' written,
    (mocking "de").toConfig.invalid? = none ∧
      (mocking "de").store.loadExisting bare "Common" = .ok ⟨[], [("de", [])]⟩ ∧
      (mocking "de").store.saveNamespace Workspace.replace Catalog.bracketed bare "Common"
        ⟨[], [("de", [])]⟩ greetings = (w', .ok written) ∧
      Catalog.load w' "locales/en/Common.json" = .ok (some greetings) := by
  have hfacts := mockingFacts "de" (by simp)
  have hloaded := loadExisting_bare hfacts
  obtain ⟨written, hwritten⟩ := Option.isSome_iff_exists.mp hfacts.saved
  have hsaved := eq_mk_of_snd_eq (eq_ok_of_toOption hwritten)
  have hspelling : ∀ locale ∈ ["de"], bare.place ((mocking "de").store.path "Common" locale) =
      bare.place ((mocking "de").store.path "Common" "en") → locale = "en" := by
    intro locale hlocale
    obtain rfl := List.mem_singleton.mp hlocale
    exact Catalog.Store.eq_of_place_path_eq (by decide) (by decide) (by decide)
  obtain ⟨base, hbase, -, hread⟩ := base_saveNamespace hfacts.valid hspelling
    Writer.mayFail_replace wellFormed_bare hloaded hsaved
  obtain ⟨hempty, -⟩ := Catalog.Store.exists_of_loadExisting hloaded
  obtain rfl : base = [] := Except.ok.inj (hbase.symm.trans hempty)
  exact ⟨_, written, hfacts.valid, hloaded, hsaved, hread (whole_greetings "Hello")⟩

/-- Another spelling of the base locale is accepted, and its catalog takes the place of the base
catalog. -/
theorem other_spelling_overwrites : ∃ w' written,
    (mocking "./en").toConfig.invalid? = none ∧
      (mocking "./en").store.loadExisting bare "Common" = .ok ⟨[], [("./en", [])]⟩ ∧
      (mocking "./en").store.saveNamespace Workspace.replace Catalog.bracketed bare "Common"
        ⟨[], [("./en", [])]⟩ greetings = (w', .ok written) ∧
      Catalog.load w' "locales/en/Common.json" =
        .ok (some [("Card", .object [("hello", .string "[./en] Hello")])]) ∧
      merge [] greetings = [("Card", .object [("hello", .string "Hello")])] := by
  have hfacts := mockingFacts "./en" (by simp)
  obtain ⟨written, hwritten⟩ := Option.isSome_iff_exists.mp hfacts.saved
  have hsaved := eq_mk_of_snd_eq (eq_ok_of_toOption hwritten)
  have hnode : ((greeted "./en").1.node "locales/en/Common.json").toOption = some
      (.file (.text (toText [("Card", .object [("hello", .string "[./en] Hello")])])) 0o644) := by
    decide +kernel
  have hread := Catalog.load_of_node (whole_greetings _) (eq_ok_of_toOption hnode)
  exact ⟨_, written, hfacts.valid, loadExisting_bare hfacts, hsaved, hread, rfl⟩

end Settings

end Phrasebook
