import Phrasebook.Proofs.Catalog.Saved
import Phrasebook.Proofs.Component.Naming
import Phrasebook.Proofs.Run.Project
import Phrasebook.Proofs.Source.Fit

/-!
No text that was taken out of a file is lost.

The texts of a rewritten file are found in the base catalog of its namespace, if the catalogs of the
namespace could be saved and the old base catalog left room for them. What an old catalog holds
wins: a value of another kind on the path of a text stays, and the text is not taken up.
-/

namespace Phrasebook

open Disk (Location)
open Script (Module)

def Settings.baseCatalog (s : Settings) (namespaceName : String) : String :=
  s.store.path namespaceName s.store.baseLocale

def Engine.reading (read : String → String → Option Module) (translate : Catalog.Translator)
    (write : Writer) : Engine where
  transform options path namespaceName source :=
    Component.migrateWith (read path) options namespaceName source
  translate := translate
  write := write

example : Engine.reading (fun path => Script.parse (.ofPath path)) Mock.shuffled
    Workspace.replace = {} :=
  rfl

/-- Whether a file holds a catalog that has a text at the end of a path. -/
def Catalog.Resolves (content? : Option Disk.Content) (path : List String) : Prop :=
  ∃ text fields, content? = some (.text text) ∧ Json.parse text = .ok (.object fields) ∧
    HasText path fields

namespace Run

section

variable {e : Engine} {s : Settings} {before after : Workspace} {r : NamespaceReport}

theorem hasText_of_extracted {namespaceName : String} {files : List FileReport}
    (hpaths : ∀ entry ∈ extracted e s namespaceName before files,
      Catalog.keyPath entry.key = [entry.component, entry.slug]) {entry : Catalog.Entry}
    (hentry : entry ∈ extracted e s namespaceName before files) :
    Catalog.Rereadable (Catalog.extend [] (extracted e s namespaceName before files)) ∧
      Catalog.HasText [entry.component, entry.slug]
        (Catalog.extend [] (extracted e s namespaceName before files)) := by
  have hlength : ∀ entry ∈ extracted e s namespaceName before files,
      (Catalog.keyPath entry.key).length = 2 := fun entry h => by rw [hpaths entry h]; rfl
  constructor
  · refine Catalog.sound_extend (.object .nil (by simp)) fun entry h => ?_
    rw [hlength entry h]
    decide
  · exact Catalog.hasText_extend hlength rfl (Or.inr ⟨entry, hentry, hpaths entry hentry⟩)

/-- A text of a namespace is found in its base catalog, unless saving the catalogs failed before
anything was written. -/
theorem resolves_of_settled (hwrite : e.write.MayFail) (h : CatalogsSettled e s before after r)
    (hpaths : ∀ entry ∈ extracted e s r.name before r.files,
      Catalog.keyPath entry.key = [entry.component, entry.slug]) {entry : Catalog.Entry}
    (hentry : entry ∈ extracted e s r.name before r.files)
    (hdoubles : Catalog.DoublesRereadable (before.contentAt (s.baseCatalog r.name)))
    (hroom : Catalog.LeavesRoom (before.contentAt (s.baseCatalog r.name))
      [entry.component, entry.slug])
    (hsaved : r.catalogError = none ∨
      after.contentAt (s.baseCatalog r.name) ≠ before.contentAt (s.baseCatalog r.name)) :
    Catalog.Resolves (after.contentAt (s.baseCatalog r.name)) [entry.component, entry.slug] := by
  rw [CatalogsSettled, if_neg (List.ne_nil_of_mem hentry)] at h
  obtain ⟨loaded, existing, ready, saved, result, hloaded, hexisting, hwf, hready, hsave, hafter,
    hreports⟩ := h
  have hbase : s.baseCatalog r.name ∈ s.store.paths r.name := List.mem_cons_self
  rcases Catalog.Store.contentAt_saveNamespace hwrite hwf e.translate existing _ hsave with
    ⟨hsame, cause, rfl⟩ | ⟨c, hc, hplace, hcontent⟩
  · rcases hsaved with hnone | hchanged
    · have herror : r.catalogError = some cause.message := hreports.2
      rw [hnone] at herror
      cases herror
    · exact absurd ((hafter _ hbase).trans (hsame.trans (hready _ hbase))) hchanged
  · have hlocale : c.1 ∈ s.store.baseLocale :: s.store.mockLocales := by
      rw [← Catalog.Store.map_fst_of_loadExisting hexisting, ← Catalog.Store.map_fst_updated]
      exact List.mem_map_of_mem hc
    have hpath : s.store.path r.name c.1 ∈ s.store.paths r.name := List.mem_map_of_mem hlocale
    have hold : loaded.contentAt (s.store.path r.name c.1) =
        before.contentAt (s.baseCatalog r.name) := by
      rw [hloaded _ hpath, ← hready _ hpath, ← hready _ hbase, Workspace.contentAt, hplace]
      rfl
    obtain ⟨hfresh, htext⟩ := hasText_of_extracted hpaths hentry
    obtain ⟨hsound, hfound⟩ := Catalog.Store.hasText_of_mem_updated hexisting hfresh htext hroom
      hdoubles (hloaded _ hbase) hc hold
    exact ⟨Catalog.toText c.2, Json.rereadFields c.2, (hafter _ hbase).trans hcontent,
      Catalog.parse_toText hsound, hfound.reread⟩

theorem exists_of_mem_extracted {namespaceName : String} {files : List FileReport}
    {entry : Catalog.Entry} (h : entry ∈ extracted e s namespaceName before files) :
    ∃ f ∈ files, ∃ m, migration? e s namespaceName before f.path = some m ∧
      entry ∈ m.entries := by
  obtain ⟨f, hf, hentry⟩ := List.mem_flatMap.mp h
  unfold entriesOf at hentry
  split at hentry
  · split at hentry
    · rename_i m hm
      exact ⟨f, hf, m, hm, hentry⟩
    · cases hentry
  · cases hentry

theorem mem_extracted {namespaceName : String} {files : List FileReport} {f : FileReport}
    (hf : f ∈ files) (htranslated : f.status.isTranslated = true) {m : Component.Migrated}
    (hm : migration? e s namespaceName before f.path = some m) {entry : Catalog.Entry}
    (hentry : entry ∈ m.entries) : entry ∈ extracted e s namespaceName before files := by
  refine List.mem_flatMap.mpr ⟨f, hf, ?_⟩
  simpa [entriesOf, htranslated, hm] using hentry

/-- A file below the directory of components that a run has changed is one that it reports as
translated. -/
theorem exists_of_changed (hwrite : e.write.MayFail) (happly : s.apply = true)
    (hw : before.WellFormed) (hout : s.CatalogsOutside before) {done : Finished}
    (h : migrate e s before = .ok done) {loc : Location}
    (hbelow : before.place s.componentsRoot <+: loc)
    (hchanged : done.workspace.disk.content? loc ≠ before.disk.content? loc) :
    ∃ r ∈ done.report.namespaces, ∃ f ∈ r.files, before.place f.path = loc ∧
      f.status.isTranslated = true := by
  obtain ⟨⟨found, hfound, hnames⟩, hsettled, hchanges⟩ :=
    settled_of_migrate hwrite happly hw hout h
  have hmem : loc ∈ done.report.namespaces.flatMap (touched s before) := by
    apply Classical.byContradiction
    intro hnot
    exact hchanged (hchanges.disk.content?_eq hw.disk hnot)
  obtain ⟨r, hr, htouched⟩ := List.mem_flatMap.mp hmem
  rcases List.mem_append.mp htouched with hfile | hcatalog
  · obtain ⟨f, hf, rfl⟩ := List.mem_map.mp hfile
    refine ⟨r, hr, f, hf, rfl, ?_⟩
    cases hstatus : f.status.isTranslated with
    | true => rfl
    | false =>
        have hfile := (hsettled r hr).file f hf
        rw [FileSettled, hstatus, Workspace.contentAt, hchanges.place_eq] at hfile
        exact absurd hfile hchanged
  · obtain ⟨n, hn, hname⟩ := List.mem_map.mp (hnames ▸ List.mem_map_of_mem hr)
    obtain ⟨path, hpath, rfl⟩ := List.mem_map.mp hcatalog
    exact absurd hbelow (hout found hfound n hn path (hname ▸ hpath))

end

/-- Every text of a rewritten file is found in the base catalog of its namespace, if the catalogs
could be saved and nothing else stood on its path. -/
theorem migrate_resolves {read : String → String → Option Module}
    {translate : Catalog.Translator} {write : Writer} {s : Settings} {w : Workspace}
    {done : Finished} (hread : ∀ path text m, read path text = some m → m.NamesAreIdentifiers)
    (hwrite : write.MayFail) (happly : s.apply = true) (hw : w.WellFormed)
    (hout : s.CatalogsOutside w) (h : migrate (.reading read translate write) s w = .ok done)
    (hdoubles : ∀ r ∈ done.report.namespaces,
      Catalog.DoublesRereadable (w.contentAt (s.baseCatalog r.name)))
    {loc : Location} (hbelow : w.place s.componentsRoot <+: loc)
    (hchanged : done.workspace.disk.content? loc ≠ w.disk.content? loc) :
    ∃ r ∈ done.report.namespaces, ∃ f ∈ r.files, ∃ source m,
      w.place f.path = loc ∧ w.contentAt f.path = some (.text source) ∧
      Component.migrateWith (read f.path) s.toOptions r.name source = .ok (.migrated m) ∧
      ∀ entry ∈ m.entries,
        Catalog.LeavesRoom (w.contentAt (s.baseCatalog r.name)) [entry.component, entry.slug] →
        (r.catalogError = none ∨ done.workspace.contentAt (s.baseCatalog r.name) ≠
          w.contentAt (s.baseCatalog r.name)) →
        Catalog.Resolves (done.workspace.contentAt (s.baseCatalog r.name))
          [entry.component, entry.slug] := by
  obtain ⟨-, hsettled, -⟩ := settled_of_migrate hwrite happly hw hout h
  obtain ⟨r, hr, f, hf, hplace, htranslated⟩ :=
    exists_of_changed hwrite happly hw hout h hbelow hchanged
  have hfile := (hsettled r hr).file f hf
  rw [FileSettled, if_pos htranslated] at hfile
  obtain ⟨m, hm, -⟩ := hfile
  obtain ⟨source, hsource, hmigrate⟩ := exists_of_migration? hm
  refine ⟨r, hr, f, hf, source, m, hplace, hsource, hmigrate, ?_⟩
  intro entry hentry hroom hsaved
  refine resolves_of_settled hwrite (hsettled r hr).catalogs ?_
    (mem_extracted hf htranslated hm hentry) (hdoubles r hr) hroom hsaved
  intro entry' hentry'
  obtain ⟨f', -, m', hm', hmem⟩ := exists_of_mem_extracted hentry'
  obtain ⟨source', -, hmigrate'⟩ := exists_of_migration? hm'
  exact Component.keyPath_of_migrateWith (hread f'.path) hmigrate' entry' hmem

theorem migrateFiles_single {e : Engine} {s : Settings} {namespaceName path : String}
    {w w' w'' : Workspace} {m : Component.Migrated} {existing : Catalog.Existing}
    {result : Except WriteError (List Catalog.Written)} (happly : s.apply = true)
    (houtcome : outcome e s namespaceName w path = .ok (.migrated m))
    (hexisting : s.store.loadExisting w namespaceName = .ok existing)
    (hwritten : e.write w path (.text m.code) = (w', none)) (hentries : m.entries ≠ [])
    (hsaved : s.store.saveNamespace e.write e.translate w' namespaceName existing
      (Catalog.extend [] m.entries) = (w'', result)) :
    ∃ r, migrateFiles e s namespaceName ⟨[path], []⟩ w = (w'', r) ∧ r.name = namespaceName ∧
      r.files.map (·.status) = [.translated m.entries.length] ∧ Reports r result := by
  have hfresh : (Catalog.extend [] m.entries).isEmpty = false := by
    rw [List.isEmpty_eq_false_iff]
    exact mt (Catalog.extend_eq_nil_iff m.entries).mp hentries
  simp only [migrateFiles, List.map_cons, List.map_nil, houtcome, List.any_cons, needsCatalog,
    Bool.true_or, if_true, hexisting, Except.map, List.foldl_cons, List.foldl_nil, advance, place,
    happly, hwritten, Option.map_none, hfresh, Bool.false_eq_true, if_false, finish, hsaved]
  cases result with
  | error cause => exact ⟨_, rfl, rfl, rfl, rfl, rfl⟩
  | ok written => exact ⟨_, rfl, rfl, rfl, rfl, rfl⟩

def card : String :=
  "import R from 'react';\n"
    ++ "export default function Card() \x7b\n  return <p>Hello there</p>;\n\x7d\n"

def migratedCard : String :=
  "import \x7b useTranslation \x7d from 'react-i18next';\nimport R from 'react';\n"
    ++ "export default function Card() \x7b\n  const \x7b t \x7d = useTranslation('Common');\n"
    ++ "  return <p>\x7bt('Card.hello_there')\x7d</p>;\n\x7d\n"

def cardPath : String := "./src/components/Common/Card.jsx"

def cardSettings : Settings := { apply := true }

def cardEntry : Catalog.Entry := ⟨"Card", "hello_there", "Hello there"⟩

def cardModule : Module :=
  ⟨⟨0, 86⟩,
    [.mk ⟨0, 22⟩ (.importFrom ⟨some "react", '\''⟩ ["R"]) [],
     .mk ⟨23, 86⟩ .exportDefault
      [.mk ⟨38, 86⟩ (.function (some "Card"))
        [.mk ⟨54, 86⟩ .block
          [.mk ⟨58, 84⟩ .other
            [.mk ⟨65, 83⟩ .other
              [.mk ⟨68, 79⟩ (.markupText "Hello there" "Hello there") []]]]]]]⟩

/-- Both forms of the component can be read, and their names are identifiers. -/
theorem parse_card : Script.parse (.ofPath cardPath) card = some cardModule ∧
    (Script.parse (.ofPath cardPath) migratedCard).any
      (fun m => decide m.NamesAreIdentifiers) = true := by
  constructor
  · decide +kernel
  · decide +kernel

theorem migrateWith_card (read : String → Option Module) (hcard : read card = some cardModule)
    (hmigrated : (read migratedCard).isSome = true) :
    ∃ m, Component.migrateWith read cardSettings.toOptions "Common" card = .ok (.migrated m) ∧
      m.code = migratedCard ∧ m.entries = [cardEntry] := by
  have heligible : Component.eligibility cardSettings.toOptions cardModule =
      .eligible '\'' := by decide +kernel
  have hedits : Component.rewriteEdits cardSettings.toOptions card.toList ⟨"Common", '\''⟩
        cardModule ++
      [Component.importEdit cardSettings.toOptions
        (Component.classify cardSettings.toOptions cardModule) ⟨"Common", '\''⟩ cardModule] =
      [⟨⟨68, 79⟩, "\x7bt('Card.hello_there')\x7d"⟩,
        .insert 58 "const \x7b t \x7d = useTranslation('Common');\n  ",
        .insert 0 "import \x7b useTranslation \x7d from 'react-i18next';\n"] := by decide +kernel
  have hcode : (Source.applyEdits card
      [⟨⟨68, 79⟩, "\x7bt('Card.hello_there')\x7d"⟩,
        .insert 58 "const \x7b t \x7d = useTranslation('Common');\n  ",
        .insert 0 "import \x7b useTranslation \x7d from 'react-i18next';\n"]).toOption =
      some migratedCard := by
    rw [Source.applyEdits_of_descending (by decide)]
    decide +kernel
  obtain ⟨result, hresult⟩ := Option.isSome_iff_exists.mp hmigrated
  obtain ⟨m, hm, hcode', hentries⟩ := Component.migrateWith_of_applyEdits hcard heligible
    (by decide +kernel) (hedits ▸ eq_ok_of_toOption hcode) hresult
  exact ⟨m, hm, hcode', hentries.trans (by decide +kernel)⟩

/-- What the project has where its catalogs belong. -/
inductive Shelf where
  /-- A base catalog with a text where the component belongs. -/
  | taken
  /-- A base catalog with other things only. -/
  | free
  /-- A file in place of a directory. -/
  | blocked
deriving DecidableEq

def oldCatalog : Shelf → Json.Fields
  | .taken => [("Card", .string "legacy")]
  | .free => [("Footer", .object [("bye", .string "Bye")]), ("version", .number (.integer 3))]
  | .blocked => []

def shelved : Shelf → List (Location × Disk.Node)
  | .blocked => [(["public"], .file (.text "") 0o644)]
  | shelf =>
      [(["public"], .directory 0o755), (["public", "static"], .directory 0o755),
        (["public", "static", "locales"], .directory 0o755),
        (["public", "static", "locales", "en"], .directory 0o755),
        (["public", "static", "locales", "en", "Common.json"],
          .file (.text (Catalog.toText (oldCatalog shelf))) 0o644)]

def cardProject (shelf : Shelf) : Workspace where
  disk := ⟨[(["src"], .directory 0o755), (["src", "components"], .directory 0o755),
    (["src", "components", "Common"], .directory 0o755),
    (["src", "components", "Common", "Card.jsx"], .file (.text card) 0o644)] ++ shelved shelf⟩
  directory := []

theorem wellFormed_cardProject (shelf : Shelf) : (cardProject shelf).WellFormed where
  disk := by cases shelf <;> exact ⟨by decide, by decide⟩
  directory := by
    intro name hname
    cases hname

theorem rereadable_oldCatalog (shelf : Shelf) : Catalog.Rereadable (oldCatalog shelf) := by
  have hthree : (Json.Number.integer 3).Rereadable :=
    (Json.readsAs_integer (by decide) (by decide)).rereadable
  cases shelf with
  | taken =>
      refine .object (by decide) fun f hf => ?_
      obtain rfl := List.mem_singleton.mp hf
      exact .string "legacy"
  | free =>
      refine .object (by decide) fun f hf => ?_
      rcases List.mem_cons.mp hf with rfl | hf
      · refine .object (by decide) fun f hf => ?_
        obtain rfl := List.mem_singleton.mp hf
        exact .string "Bye"
      · obtain rfl := List.mem_singleton.mp hf
        exact .number hthree
  | blocked => exact .object (by decide) (by simp [oldCatalog])

def cardNamespace : Scan.Namespace := ⟨"Common", Path.join "./src/components" "Common"⟩

def writtenProject (shelf : Shelf) : Workspace :=
  (Workspace.replace (cardProject shelf) cardPath (.text migratedCard)).1

def savedProject (shelf : Shelf) : Workspace × Except WriteError (List Catalog.Written) :=
  cardSettings.store.saveNamespace Workspace.replace Mock.shuffled (writtenProject shelf)
    "Common" ⟨Json.rereadFields (oldCatalog shelf), [("de", [])]⟩ (Catalog.extend [] [cardEntry])

/-- What a run meets in the project, and what becomes of its writes. -/
structure CardFacts (shelf : Shelf) : Prop where
  listed : ((cardProject shelf).list cardSettings.componentsRoot).toOption =
    some [("Common", .directory 0o755)]
  found : (Scan.regularFiles (cardProject shelf) cardNamespace.directory).toOption =
    some [cardPath]
  kept : (!(Scan.IgnoreRules.ofEntries cardSettings.componentsRoot
    cardSettings.ignores).ignores cardPath &&
      Scan.hasExtension cardSettings.extensions cardPath) = true
  component : ((cardProject shelf).readText cardPath).toOption = some card
  below : (cardProject shelf).place cardSettings.componentsRoot <+:
    (cardProject shelf).place cardPath
  outside : ∀ path ∈ cardSettings.store.paths cardNamespace.name,
    ¬ (cardProject shelf).place cardSettings.componentsRoot <+: (cardProject shelf).place path
  hasBase : (cardProject shelf).has (cardSettings.baseCatalog "Common") =
    decide (shelf ≠ .blocked)
  base : shelf ≠ .blocked →
    ((cardProject shelf).readText (cardSettings.baseCatalog "Common")).toOption =
      some (Catalog.toText (oldCatalog shelf))
  hasMock : (cardProject shelf).has (cardSettings.store.path "Common" "de") = false
  written : (Workspace.replace (cardProject shelf) cardPath (.text migratedCard)).2 = none
  apart : (writtenProject shelf).place cardPath ∉
    cardSettings.store.places (writtenProject shelf) "Common"
  mockApart : (writtenProject shelf).place (cardSettings.store.path "Common" "de") ≠
    (writtenProject shelf).place (cardSettings.baseCatalog "Common")
  saved : (savedProject shelf).2.toOption.isSome = decide (shelf ≠ .blocked)
  unsaved : shelf = .blocked →
    (savedProject shelf).1.contentAt (cardSettings.baseCatalog "Common") = none

theorem cardFacts (shelf : Shelf) : CardFacts shelf := by
  -- Most facts are about the same writes, so all of them are evaluated together.
  refine (fun ⟨a, b, c, d, e, f, g, h, i, j, k, l, m, n⟩ =>
    ⟨a, b, c, d, e, f, g, h, i, j, k, l, m, n⟩ :
    _ ∧ _ ∧ _ ∧ _ ∧ _ ∧ _ ∧ _ ∧ _ ∧ _ ∧ _ ∧ _ ∧ _ ∧ _ ∧ _ → _) ?_
  cases shelf <;> decide +kernel

theorem namespaces_cardProject (shelf : Shelf) :
    Scan.namespaces (cardProject shelf) cardSettings.componentsRoot cardSettings.only =
      .ok [cardNamespace] :=
  Scan.namespaces_of_list ["Common"] (eq_ok_of_toOption (cardFacts shelf).listed) (by decide)

theorem sourceFiles_cardProject (shelf : Shelf) :
    Scan.sourceFiles (cardProject shelf) cardSettings.extensions
        (.ofEntries cardSettings.componentsRoot cardSettings.ignores) cardNamespace.directory =
      ⟨[cardPath], []⟩ :=
  Scan.sourceFiles_of_regularFiles (eq_ok_of_toOption (cardFacts shelf).found)
    (cardFacts shelf).kept

theorem readText_card (shelf : Shelf) : (cardProject shelf).readText cardPath = .ok card :=
  eq_ok_of_toOption (cardFacts shelf).component

theorem readText_base {shelf : Shelf} (hshelf : shelf ≠ .blocked) :
    (cardProject shelf).readText (cardSettings.baseCatalog "Common") =
      .ok (Catalog.toText (oldCatalog shelf)) :=
  eq_ok_of_toOption ((cardFacts shelf).base hshelf)

theorem loadLocale_base (shelf : Shelf) :
    cardSettings.store.loadLocale (cardProject shelf) "Common" "en" =
      .ok (Json.rereadFields (oldCatalog shelf)) := by
  have hthere : (cardProject shelf).has (cardSettings.store.path "Common" "en") =
      decide (shelf ≠ .blocked) := (cardFacts shelf).hasBase
  by_cases hshelf : shelf = .blocked
  · subst hshelf
    simp only [Catalog.Store.loadLocale, Catalog.load, hthere, ne_eq, not_true_eq_false,
      decide_false, Bool.not_false, if_true, Except.map, Option.getD_none]
    rfl
  · have hread : (cardProject shelf).readText (cardSettings.store.path "Common" "en") = _ :=
      readText_base hshelf
    simp only [Catalog.Store.loadLocale, Catalog.load, hthere, ne_eq, hshelf, not_false_eq_true,
      decide_true, Bool.not_true, Bool.false_eq_true, if_false, hread, Catalog.ofText,
      Catalog.parse_toText (rereadable_oldCatalog shelf), Except.map, Option.getD_some]

theorem loadExisting_cardProject (shelf : Shelf) :
    cardSettings.store.loadExisting (cardProject shelf) "Common" =
      .ok ⟨Json.rereadFields (oldCatalog shelf), [("de", [])]⟩ := by
  have hmock : cardSettings.store.loadLocale (cardProject shelf) "Common" "de" = .ok [] := by
    simp only [Catalog.Store.loadLocale, Catalog.load, (cardFacts shelf).hasMock, Bool.not_false,
      if_true, Except.map, Option.getD_none]
  have hmocks : cardSettings.store.loadLocales (cardProject shelf) "Common" ["de"] =
      .ok [("de", [])] := by
    simp only [Catalog.Store.loadLocales, List.mapM_cons, List.mapM_nil, hmock, Except.map, bind,
      Except.bind, pure, Except.pure]
  exact Catalog.Store.loadExisting_eq_ok (loadLocale_base shelf) hmocks

theorem replace_cardProject (shelf : Shelf) :
    Workspace.replace (cardProject shelf) cardPath (.text migratedCard) =
      (writtenProject shelf, none) :=
  eq_mk_of_snd_eq (cardFacts shelf).written

theorem wellFormed_writtenProject (shelf : Shelf) : (writtenProject shelf).WellFormed := by
  obtain ⟨hchanges, -⟩ :=
    Workspace.changes_of_replace (wellFormed_cardProject shelf) (replace_cardProject shelf)
  exact hchanges.wellFormed (wellFormed_cardProject shelf)

theorem exists_savedProject (shelf : Shelf) (hshelf : shelf ≠ .blocked) :
    ∃ written, (savedProject shelf).2 = .ok written := by
  have hsaved := (cardFacts shelf).saved
  rw [decide_eq_true hshelf] at hsaved
  obtain ⟨written, hwritten⟩ := Option.isSome_iff_exists.mp hsaved
  exact ⟨written, eq_ok_of_toOption hwritten⟩

/-- A run over the project writes the component and tries to save the catalogs. -/
theorem migrate_cardProject (shelf : Shelf) (read : String → String → Option Module)
    {m : Component.Migrated}
    (hm : Component.migrateWith (read cardPath) cardSettings.toOptions
      "Common" card = .ok (.migrated m))
    (hcode : m.code = migratedCard) (hentries : m.entries = [cardEntry]) :
    ∃ done r, migrate (.reading read Mock.shuffled Workspace.replace) cardSettings
        (cardProject shelf) = .ok done ∧
      done.workspace = (savedProject shelf).1 ∧ done.report.namespaces = [r] ∧
      r.name = "Common" ∧ Reports r (savedProject shelf).2 := by
  have hwritten := replace_cardProject shelf
  rw [← hcode] at hwritten
  rcases hsaved : savedProject shelf with ⟨last, result⟩
  rw [savedProject, ← hentries] at hsaved
  obtain ⟨r, hturn, hname, -, hreported⟩ := migrateFiles_single
    (e := .reading read Mock.shuffled Workspace.replace) (s := cardSettings) rfl
    (outcome_eq_ok (readText_card shelf) hm) (loadExisting_cardProject shelf) hwritten
    (by simp [hentries]) hsaved
  obtain ⟨done, hdone, hworkspace, hreports⟩ :=
    migrate_single (n := cardNamespace) (namespaces_cardProject shelf)
      (sourceFiles_cardProject shelf) hturn
  exact ⟨done, r, hdone, hworkspace, hreports, hname, hreported⟩

theorem catalogsOutside_cardProject (shelf : Shelf) :
    cardSettings.CatalogsOutside (cardProject shelf) := by
  intro found hfound n hn path hpath
  rw [namespaces_cardProject] at hfound
  obtain rfl := Except.ok.inj hfound
  obtain rfl := List.mem_singleton.mp hn
  exact (cardFacts shelf).outside path hpath

theorem contentAt_savedProject (shelf : Shelf) :
    (savedProject shelf).1.contentAt cardPath =
      some (.text migratedCard) := by
  obtain ⟨-, hcontent⟩ :=
    Workspace.changes_of_replace (wellFormed_cardProject shelf) (replace_cardProject shelf)
  have hw := wellFormed_writtenProject shelf
  have hsaved := Catalog.Store.changes_saveNamespace Writer.mayFail_replace hw
    (loadExisting_cardProject shelf) Mock.shuffled (Catalog.extend [] [cardEntry])
  exact (hsaved.contentAt_eq hw (cardFacts shelf).apart).trans hcontent

theorem extend_cardEntry : Catalog.extend [] [cardEntry] =
    [("Card", .object [("hello_there", .string "Hello there")])] := by
  have hpath : Catalog.keyPath cardEntry.key = ["Card", "hello_there"] :=
    Catalog.keyPath_key (by decide) (by decide)
  rw [Catalog.extend, List.foldl_cons, List.foldl_nil, Catalog.insert, hpath]
  rfl

/-- The old catalog wins, so the base catalog holds just what it held. -/
theorem base_savedProject :
    (savedProject .taken).1.contentAt (cardSettings.baseCatalog "Common") =
      some (.text (Catalog.toText (oldCatalog .taken))) := by
  have hold : Json.rereadFields (oldCatalog .taken) = oldCatalog .taken := rfl
  have hmerged : Catalog.merge (oldCatalog .taken) (Catalog.extend [] [cardEntry]) =
      oldCatalog .taken := by
    rw [extend_cardEntry]
    simp [oldCatalog, Catalog.merge, Json.Fields.get?, Catalog.mergeValue, Json.Fields.set]
  obtain ⟨written, hwritten⟩ := exists_savedProject .taken (by decide)
  have hcontent := Catalog.Store.contentAt_saveNamespace Writer.mayFail_replace
    (wellFormed_writtenProject .taken) _ _ _ (eq_mk_of_snd_eq hwritten)
  rcases hcontent with ⟨-, cause, hcause⟩ | ⟨c, hc, hsame, hcontent⟩
  · cases hcause
  · rw [Catalog.Store.updated, hold, hmerged] at hc
    rcases List.mem_cons.mp hc with rfl | hc
    · exact hcontent
    · obtain rfl := List.mem_singleton.mp hc
      exact absurd hsame (cardFacts .taken).mockApart

/-- A run that writes rewrites the component of a project, and the base catalog does not have its
text afterwards. -/
def LosesText (w : Workspace) : Prop :=
  w.WellFormed ∧ cardSettings.CatalogsOutside w ∧
    ∃ done m, migrate {} cardSettings w = .ok done ∧
      w.contentAt cardPath = some (.text card) ∧
      done.workspace.contentAt cardPath = some (.text migratedCard) ∧
      Component.migrate cardSettings.toOptions cardPath "Common" card =
        .ok (.migrated m) ∧
      cardEntry ∈ m.entries ∧
      ¬ Catalog.Resolves (done.workspace.contentAt (cardSettings.baseCatalog "Common"))
        [cardEntry.component, cardEntry.slug]

theorem losesText_of_not_resolves {shelf : Shelf}
    (h : ¬ Catalog.Resolves ((savedProject shelf).1.contentAt (cardSettings.baseCatalog "Common"))
      [cardEntry.component, cardEntry.slug]) : LosesText (cardProject shelf) := by
  obtain ⟨hcard, hmigrated⟩ := parse_card
  obtain ⟨m', hm', -⟩ := (Option.any_eq_true ..).mp hmigrated
  obtain ⟨m, hm, hcode, hentries⟩ :=
    migrateWith_card (Script.parse (.ofPath cardPath)) hcard (by rw [hm']; rfl)
  obtain ⟨done, r, hdone, hworkspace, -⟩ := migrate_cardProject shelf
    (fun path => Script.parse (.ofPath path)) hm hcode hentries
  refine ⟨wellFormed_cardProject shelf, catalogsOutside_cardProject shelf, done, m, hdone,
    Workspace.contentAt_of_readText (readText_card shelf), ?_, hm, by simp [hentries], ?_⟩
  · rw [hworkspace]
    exact contentAt_savedProject shelf
  · rw [hworkspace]
    exact h

/-- The text of a rewritten file is lost if the old catalog held a text where the component
belongs, and if the catalogs cannot be saved. -/
theorem cardProject_not_resolved :
    LosesText (cardProject .taken) ∧ LosesText (cardProject .blocked) := by
  constructor
  · apply losesText_of_not_resolves
    rintro ⟨text, fields, htext, hparse, _, hvalue⟩
    rw [base_savedProject] at htext
    obtain rfl := Disk.Content.text.inj (Option.some.inj htext)
    rw [Catalog.parse_toText (rereadable_oldCatalog .taken)] at hparse
    obtain rfl := Json.Value.object.inj (Except.ok.inj hparse)
    cases hvalue
  · apply losesText_of_not_resolves
    rintro ⟨text, fields, htext, -⟩
    rw [(cardFacts .blocked).unsaved rfl] at htext
    cases htext

/-- Reads the component and its migrated form, and nothing else. -/
def readCard (_ text : String) : Option Module :=
  if text = card ∨ text = migratedCard then Script.parse (.ofPath cardPath) text else none

theorem identifiers_readCard {path text : String} {m : Module} (h : readCard path text = some m) :
    m.NamesAreIdentifiers := by
  unfold readCard at h
  split at h
  · rename_i htext
    rcases htext with rfl | rfl
    · rw [parse_card.1] at h
      obtain rfl := Option.some.inj h
      decide
    · obtain ⟨m', hm', hidentifiers⟩ := (Option.any_eq_true ..).mp parse_card.2
      rw [hm'] at h
      obtain rfl := Option.some.inj h
      exact of_decide_eq_true hidentifiers
  · cases h

theorem eq_of_parse_base {text : String} {fields : Json.Fields}
    (htext : (cardProject .free).contentAt (cardSettings.baseCatalog "Common") =
      some (.text text))
    (hparse : Json.parse text = .ok (.object fields)) : fields = oldCatalog .free := by
  have hbase : (cardProject .free).contentAt (cardSettings.baseCatalog "Common") = _ :=
    Workspace.contentAt_of_readText (readText_base (by decide))
  have hthree : (Json.Number.integer 3).reread = .integer 3 :=
    (Json.readsAs_integer (by decide) (by decide)).reread_eq
  rw [hbase] at htext
  obtain rfl := Disk.Content.text.inj (Option.some.inj htext)
  rw [Catalog.parse_toText (rereadable_oldCatalog .free)] at hparse
  rw [← Json.Value.object.inj (Except.ok.inj hparse)]
  simp [oldCatalog, Json.rereadFields, Json.Value.reread, hthree]

theorem cardProject_resolved :
    ∃ done, migrate (.reading readCard Mock.shuffled Workspace.replace) cardSettings
        (cardProject .free) = .ok done ∧
      Catalog.Resolves (done.workspace.contentAt (cardSettings.baseCatalog "Common"))
        ["Card", "hello_there"] := by
  obtain ⟨m', hm', -⟩ := (Option.any_eq_true ..).mp parse_card.2
  obtain ⟨m, hm, hcode, hentries⟩ :=
    migrateWith_card (readCard cardPath)
      (by simp [readCard, parse_card.1]) (by simp [readCard, hm'])
  obtain ⟨done, r, hdone, hworkspace, hreports, hname, hreported⟩ :=
    migrate_cardProject .free readCard hm hcode hentries
  obtain ⟨written, hwritten⟩ := exists_savedProject .free (by decide)
  rw [hwritten] at hreported
  have hcard : (cardProject .free).contentAt cardPath = _ :=
    Workspace.contentAt_of_readText (readText_card .free)
  have hdoubles : ∀ r ∈ done.report.namespaces, Catalog.DoublesRereadable
      ((cardProject .free).contentAt (cardSettings.baseCatalog r.name)) := by
    intro r' hr' text fields htext hparse bits hbits
    rw [hreports] at hr'
    obtain rfl := List.mem_singleton.mp hr'
    rw [hname] at htext
    obtain rfl := eq_of_parse_base htext hparse
    cases hbits with
    | tail _ h => cases h
  have hchanged : done.workspace.disk.content?
      ((cardProject .free).place cardPath) ≠
      (cardProject .free).disk.content?
        ((cardProject .free).place cardPath) := by
    obtain ⟨-, -, hchanges⟩ := settled_of_migrate Writer.mayFail_replace rfl
      (wellFormed_cardProject .free) (catalogsOutside_cardProject .free) hdone
    have hnew := contentAt_savedProject .free
    rw [← hworkspace, Workspace.contentAt, hchanges.place_eq] at hnew
    rw [Workspace.contentAt] at hcard
    rw [hnew, hcard]
    decide
  obtain ⟨r', hr', f, -, source, m'', hplace, hsource, hm'', hall⟩ :=
    migrate_resolves (fun _ _ _ => identifiers_readCard) Writer.mayFail_replace rfl
      (wellFormed_cardProject .free) (catalogsOutside_cardProject .free) hdone hdoubles
      (cardFacts .free).below hchanged
  rw [hreports] at hr'
  obtain rfl := List.mem_singleton.mp hr'
  rw [Workspace.contentAt, hplace, ← Workspace.contentAt, hcard] at hsource
  obtain rfl := Disk.Content.text.inj (Option.some.inj hsource)
  rw [hname] at hall hm''
  obtain rfl : m'' = m := by
    have hsame := hm.symm.trans hm''
    cases hsame
    rfl
  refine ⟨done, hdone, hall cardEntry (by simp [hentries]) ?_ (Or.inl hreported.2)⟩
  intro text fields htext hparse v hv
  obtain rfl := eq_of_parse_base htext hparse
  cases hv

end Run

end Phrasebook
