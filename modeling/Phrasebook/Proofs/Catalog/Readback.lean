import Phrasebook.Proofs.Catalog.Saved
import Phrasebook.Proofs.Catalog.Loading

/-!
Saving the catalogs of a namespace and reading them back.

If the catalogs lie at different places and hold no doubles, then after all of them were saved each
is read back as what was there before with the new texts merged in, and nothing else on the disk has
changed but for directories on the way to them.
-/

namespace Phrasebook.Catalog

open Disk (Location)
open Json (Fields Value Number Sound)

/-- Catalogs that hold no doubles and do not nest too deeply to be read. -/
abbrev Whole (fields : Fields) : Prop := Sound Number.IsWhole Json.maxDepth (.object fields)

theorem whole_nil : Whole [] := .object .nil (by simp)

theorem whole_text (component slug text : String) :
    Whole [(component, .object [(slug, .string text)])] := by
  refine .object (by simp [Json.Fields.keys]) fun f hf => ?_
  obtain rfl := List.mem_singleton.mp hf
  refine .object (by simp [Json.Fields.keys]) fun f hf => ?_
  obtain rfl := List.mem_singleton.mp hf
  exact .string text

theorem parse_toText_of_whole {fields : Fields} (h : Whole fields) :
    Json.parse (toText fields) = .ok (.object fields) := by
  have hobject : Value.object (Json.rereadFields fields) = .object fields := h.reread_eq
  rw [parse_toText (h.imp fun _ hn => hn.readsAs.rereadable), hobject]

theorem whole_of_load {w : Workspace} {path : String} {fields : Fields}
    (h : load w path = .ok (some fields))
    (hfloat : ∀ bits, .float bits ∉ (Value.object fields).numbers) : Whole fields := by
  obtain ⟨text, -, hparse⟩ := exists_of_load h
  exact (Json.sound_of_parse hparse).whole hfloat

theorem load_of_node {w : Workspace} {path : String} {fields : Fields} {mode : Nat}
    (hfields : Whole fields) (hnode : w.node path = .ok (.file (.text (toText fields)) mode)) :
    load w path = .ok (some fields) := by
  simp only [load, Workspace.has, Workspace.readText, hnode, ofText, parse_toText_of_whole hfields]
  rfl

namespace Store

variable {s : Store} {write : Writer} {w w' : Workspace} {namespaceName : String}

/-- The directories that lie on the way to one of some catalogs. -/
def OnWay (s : Store) (w : Workspace) (namespaceName : String) (locales : List String)
    (loc : Location) : Prop :=
  ∃ locale ∈ locales, w.Passes (s.path namespaceName locale) loc

theorem written_of_saveLocales {catalogs : List (String × Fields)} {written : List Written}
    (h : s.saveLocales write namespaceName w catalogs = (w', .ok written)) :
    written = catalogs.map fun c => ⟨c.1, s.path namespaceName c.1, keyCount c.2⟩ := by
  induction catalogs generalizing w written with
  | nil =>
      cases h
      rfl
  | cons catalog rest ih =>
      obtain ⟨next, others, -, hrest, rfl⟩ := exists_of_saveLocales_cons h
      rw [List.map_cons, ih hrest]

theorem keeps_saveLocales (hwrite : write.MayFail) (hw : w.WellFormed)
    {catalogs : List (String × Fields)} {written : List Written}
    (h : s.saveLocales write namespaceName w catalogs = (w', .ok written)) :
    w.Keeps (catalogs.map fun c => w.place (s.path namespaceName c.1))
      (s.OnWay w namespaceName (catalogs.map (·.1))) w' := by
  induction catalogs generalizing w written with
  | nil =>
      cases h
      exact .refl _
  | cons catalog rest ih =>
      obtain ⟨next, others, hsaved, hrest, -⟩ := exists_of_saveLocales_cons h
      have hfirst := hwrite.keeps_of_success hw hsaved
      have hlast := ih ((hwrite.changes_of_success hw hsaved).1.wellFormed hw) hrest
      have hplace : next.place = w.place :=
        funext (Workspace.place_eq_of_directory hfirst.directory)
      have hway : ∀ loc, s.OnWay next namespaceName (rest.map (·.1)) loc →
          s.OnWay w namespaceName ((catalog :: rest).map (·.1)) loc := by
        rintro loc ⟨locale, hlocale, hpasses⟩
        rw [Workspace.passes_eq_of_directory hfirst.directory] at hpasses
        exact ⟨locale, List.mem_cons_of_mem _ hlocale, hpasses⟩
      rw [hplace] at hlast
      refine .trans (hfirst.mono (by simp) fun loc hloc => ?_) (hlast.mono (by simp) hway)
      exact ⟨catalog.1, List.mem_cons_self, hloc⟩

/-- The first of some saved catalogs is there at the end, if no other took its place. -/
theorem node_saveLocales_cons (hwrite : write.MayFail) (hw : w.WellFormed)
    (catalog : String × Fields) {rest : List (String × Fields)} {written : List Written}
    (hfree : w.place (s.path namespaceName catalog.1) ∉
      rest.map fun c => w.place (s.path namespaceName c.1))
    (h : s.saveLocales write namespaceName w (catalog :: rest) = (w', .ok written)) :
    ∃ mode, w'.node (s.path namespaceName catalog.1) =
      .ok (.file (.text (toText catalog.2)) mode) := by
  obtain ⟨next, others, hsaved, hrest, -⟩ := exists_of_saveLocales_cons h
  obtain ⟨hchanges, -⟩ := hwrite.changes_of_success hw hsaved
  obtain ⟨mode, hnode⟩ := hwrite.node_of_success hw hsaved
  have hnext := hchanges.wellFormed hw
  have hplace : next.place = w.place := funext hchanges.place_eq
  have hlater := changes_saveLocales (s := s) hwrite hnext namespaceName rest
  rw [hrest, hplace] at hlater
  obtain ⟨node, hnode', hcontent⟩ := hlater.node_eq hnext (by rwa [hplace]) hnode
  cases node with
  | file content mode' =>
      obtain rfl := Option.some.inj hcontent
      exact ⟨mode', hnode'⟩
  | directory mode' => cases hcontent

/-- Each of the saved catalogs is there at the end, if they lie at different places. -/
theorem node_saveLocales (hwrite : write.MayFail) (hw : w.WellFormed)
    {catalogs : List (String × Fields)} {written : List Written}
    (hplaces : (catalogs.map fun c => w.place (s.path namespaceName c.1)).Nodup)
    (h : s.saveLocales write namespaceName w catalogs = (w', .ok written)) :
    ∀ c ∈ catalogs, ∃ mode,
      w'.node (s.path namespaceName c.1) = .ok (.file (.text (toText c.2)) mode) := by
  induction catalogs generalizing w written with
  | nil => simp
  | cons catalog rest ih =>
      obtain ⟨hfirst, hplaces⟩ := List.nodup_cons.mp hplaces
      obtain ⟨next, others, hsaved, hrest, -⟩ := exists_of_saveLocales_cons h
      obtain ⟨hchanges, -⟩ := hwrite.changes_of_success hw hsaved
      have hplace : next.place = w.place := funext hchanges.place_eq
      intro c hc
      rcases List.mem_cons.mp hc with rfl | hc
      · exact node_saveLocales_cons hwrite hw c hfirst h
      · exact ih (hchanges.wellFormed hw) (by rwa [hplace]) hrest c hc

theorem whole_of_loadLocale {locale : String} {fields : Fields}
    (h : s.loadLocale w namespaceName locale = .ok fields)
    (hfloat : ∀ fields, load w (s.path namespaceName locale) = .ok (some fields) →
      ∀ bits, .float bits ∉ (Value.object fields).numbers) : Whole fields := by
  obtain ⟨loaded, hloaded, rfl⟩ := exists_of_map_eq_ok h
  cases loaded with
  | none => exact whole_nil
  | some fields => exact whole_of_load hloaded (hfloat fields hloaded)

theorem whole_of_loadExisting {existing : Existing}
    (h : s.loadExisting w namespaceName = .ok existing)
    (hfloat : ∀ path ∈ s.paths namespaceName, ∀ fields, load w path = .ok (some fields) →
      ∀ bits, .float bits ∉ (Value.object fields).numbers) :
    Whole existing.base ∧ ∀ c ∈ existing.mocks, Whole c.2 := by
  obtain ⟨hbase, hmocks⟩ := exists_of_loadExisting h
  constructor
  · exact whole_of_loadLocale hbase (hfloat _ List.mem_cons_self)
  · intro c hc
    have hlocale : c.1 ∈ s.mockLocales := map_fst_of_loadExisting h ▸ List.mem_map_of_mem hc
    refine whole_of_loadLocale (hmocks c hc) (hfloat _ (List.mem_map_of_mem ?_))
    exact List.mem_cons_of_mem _ hlocale

/-- The catalogs that a namespace gets hold no doubles, if those that are there and the new texts
hold none. -/
theorem whole_of_mem_updated {existing : Existing} {translate : Translator} {fresh : Fields}
    (hbase : Whole existing.base) (hmocks : ∀ c ∈ existing.mocks, Whole c.2)
    (hfresh : Whole fresh) : ∀ c ∈ s.updated translate existing fresh, Whole c.2 := by
  have hmerged := sound_merge hbase hfresh
  intro c hc
  rcases List.mem_cons.mp hc with rfl | hc
  · exact hmerged
  · obtain ⟨old, hold, rfl⟩ := List.mem_map.mp hc
    exact sound_merge (hmocks old hold) (sound_mock translate old.1 hmerged)

/-- Saving the catalogs of a namespace, from what was there to what is read back. -/
theorem load_saveNamespace {existing : Existing} {translate : Translator} {fresh : Fields}
    {written : List Written} (hwrite : write.MayFail) (hw : w.WellFormed)
    (hplaces : (s.places w namespaceName).Nodup)
    (hfloat : ∀ path ∈ s.paths namespaceName, ∀ fields, load w path = .ok (some fields) →
      ∀ bits, .float bits ∉ (Value.object fields).numbers)
    (hfresh : Whole fresh) (hloaded : s.loadExisting w namespaceName = .ok existing)
    (hsaved : s.saveNamespace write translate w namespaceName existing fresh =
      (w', .ok written)) :
    ∃ base, s.loadLocale w namespaceName s.baseLocale = .ok base ∧
      load w' (s.path namespaceName s.baseLocale) = .ok (some (merge base fresh)) ∧
      (∀ locale ∈ s.mockLocales, ∃ old, s.loadLocale w namespaceName locale = .ok old ∧
        load w' (s.path namespaceName locale) =
          .ok (some (merge old (mock translate locale (merge base fresh))))) ∧
      written.map (·.locale) = s.baseLocale :: s.mockLocales ∧
      (∀ c ∈ written, c.path = s.path namespaceName c.locale ∧
        ∃ fields, load w' c.path = .ok (some fields) ∧ c.keys = keyCount fields) ∧
      w.Keeps (s.places w namespaceName)
        (s.OnWay w namespaceName (s.baseLocale :: s.mockLocales)) w' := by
  obtain ⟨hbase, hmocks⟩ := exists_of_loadExisting hloaded
  have hlocales := map_fst_of_loadExisting hloaded
  have hfloat' : ∀ locale ∈ s.baseLocale :: s.mockLocales, ∀ fields,
      load w (s.path namespaceName locale) = .ok (some fields) →
        ∀ bits, .float bits ∉ (Value.object fields).numbers :=
    fun locale hlocale => hfloat _ (List.mem_map_of_mem hlocale)
  have hbaseWhole := whole_of_loadLocale hbase (hfloat' _ List.mem_cons_self)
  have hmocksWhole : ∀ c ∈ existing.mocks, Whole c.2 := by
    intro c hc
    have hlocale : c.1 ∈ s.mockLocales := hlocales ▸ List.mem_map_of_mem hc
    exact whole_of_loadLocale (hmocks c hc) (hfloat' _ (List.mem_cons_of_mem _ hlocale))
  have hwhole : ∀ c ∈ s.updated translate existing fresh, Whole c.2 :=
    whole_of_mem_updated hbaseWhole hmocksWhole hfresh
  have hfirsts : (s.updated translate existing fresh).map (·.1) =
      s.baseLocale :: s.mockLocales := by
    rw [map_fst_updated, hlocales]
  have hplaces' := map_place_updated hloaded translate fresh w
  have hread : ∀ c ∈ s.updated translate existing fresh,
      load w' (s.path namespaceName c.1) = .ok (some c.2) := by
    intro c hc
    obtain ⟨mode, hnode⟩ := node_saveLocales hwrite hw (hplaces' ▸ hplaces) hsaved c hc
    exact load_of_node (hwhole c hc) hnode
  have hwritten := written_of_saveLocales hsaved
  have hkeeps := keeps_saveLocales hwrite hw hsaved
  rw [hplaces', hfirsts] at hkeeps
  refine ⟨existing.base, hbase, ?_, ?_, ?_, ?_, hkeeps⟩
  · exact hread (s.baseLocale, merge existing.base fresh) List.mem_cons_self
  · intro locale hlocale
    obtain ⟨old, hold, rfl⟩ := List.mem_map.mp (hlocales.symm ▸ hlocale)
    refine ⟨old.2, hmocks old hold, ?_⟩
    exact hread (old.1, merge old.2 (mock translate old.1 (merge existing.base fresh)))
      (List.mem_cons_of_mem _ (List.mem_map_of_mem hold))
  · rw [hwritten, List.map_map, ← hfirsts]
    rfl
  · intro c hc
    rw [hwritten] at hc
    obtain ⟨catalog, hcatalog, rfl⟩ := List.mem_map.mp hc
    exact ⟨rfl, catalog.2, hread catalog hcatalog, rfl⟩

end Store

def shopStore : Store := ⟨"locales", "en", ["de", "fr"]⟩

/-- A shop with a catalog in two of its locales. -/
def shop : Workspace where
  disk :=
    ⟨[(["locales"], .directory 0o755), (["locales", "de"], .directory 0o755),
      (["locales", "en"], .directory 0o755),
      (["locales", "de", "Shop.json"],
        .file (.text "\x7b\"Cart\": \x7b\"title\": \"Korb\"\x7d\x7d") 0o600),
      (["locales", "en", "Shop.json"],
        .file (.text "\x7b\"Cart\": \x7b\"title\": \"Your cart\", \"limit\": 20\x7d\x7d") 0o644)]⟩
  directory := []

def bracketed : Translator := fun locale text => "[" ++ locale ++ "] " ++ text

def shopTexts : Fields := [("Cart", .object [("empty", .string "No items")])]

structure ShopFacts : Prop where
  places : (shopStore.places shop "Shop").Nodup
  numbers : ((shopStore.paths "Shop").map fun path =>
      ((load shop path).toOption.bind id).map fun fields => (Value.object fields).numbers) =
    [some [.integer 20], some [], none]
  saved : ((shopStore.loadExisting shop "Shop").toOption.map fun existing =>
      (shopStore.saveNamespace Workspace.replace bracketed shop "Shop" existing
        shopTexts).2.toOption.isSome) = some true

theorem shopFacts : ShopFacts := by
  refine (fun ⟨a, b, c⟩ => ⟨a, b, c⟩ : _ ∧ _ ∧ _ → _) ?_
  decide +kernel

theorem wellFormed_shop : shop.WellFormed where
  disk := ⟨by decide, by decide⟩
  directory := by
    intro name hname
    cases hname

theorem float_not_mem_shop : ∀ path ∈ shopStore.paths "Shop", ∀ fields,
    load shop path = .ok (some fields) → ∀ bits, .float bits ∉ (Value.object fields).numbers := by
  intro path hpath fields hload bits hmem
  have hnumbers : some (Value.object fields).numbers ∈
      [some [.integer 20], some [], none] := by
    rw [← shopFacts.numbers]
    exact List.mem_map.mpr ⟨path, hpath, by rw [hload]; rfl⟩
  simp only [List.mem_cons, Option.some.injEq, reduceCtorEq, List.not_mem_nil, or_false]
    at hnumbers
  rcases hnumbers with h | h <;> rw [h] at hmem <;> simp at hmem

/-- The new text is put into a catalog that is there, with another locale before it and one after
it that lacks its directory. -/
theorem shop_reads_back : ∃ existing w' written base,
    shopStore.loadExisting shop "Shop" = .ok existing ∧
      shopStore.saveNamespace Workspace.replace bracketed shop "Shop" existing shopTexts =
        (w', .ok written) ∧
      written.map (·.locale) = ["en", "de", "fr"] ∧
      shopStore.loadLocale shop "Shop" "en" = .ok base ∧
      load w' "locales/en/Shop.json" = .ok (some (merge base shopTexts)) ∧
      ∀ locale ∈ ["de", "fr"], ∃ old, shopStore.loadLocale shop "Shop" locale = .ok old ∧
        load w' (shopStore.path "Shop" locale) =
          .ok (some (merge old (mock bracketed locale (merge base shopTexts)))) := by
  obtain ⟨existing, hexisting, hsome⟩ := Option.map_eq_some_iff.mp shopFacts.saved
  have hloaded := eq_ok_of_toOption hexisting
  obtain ⟨written, hwritten⟩ := Option.isSome_iff_exists.mp hsome
  have hsaved := eq_mk_of_snd_eq (eq_ok_of_toOption hwritten)
  have hfresh : Whole shopTexts := by
    refine .object (by simp [Json.Fields.keys, shopTexts]) fun f hf => ?_
    obtain rfl := List.mem_singleton.mp hf
    refine .object (by simp [Json.Fields.keys]) fun f hf => ?_
    obtain rfl := List.mem_singleton.mp hf
    exact .string _
  obtain ⟨base, hbase, hread, hmocks, hlocales, -⟩ := Store.load_saveNamespace
    Writer.mayFail_replace wellFormed_shop shopFacts.places float_not_mem_shop hfresh hloaded
    hsaved
  exact ⟨existing, _, written, base, hloaded, hsaved, hlocales, hbase, hread, hmocks⟩

end Phrasebook.Catalog
