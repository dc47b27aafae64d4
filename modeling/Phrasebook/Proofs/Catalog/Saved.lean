import Phrasebook.Proofs.Catalog.Merge
import Phrasebook.Proofs.Catalog.Store
import Phrasebook.Proofs.Json.Reading

/-!
What the base catalog of a namespace holds after its catalogs were saved.

Whatever write fails, the base catalog is what it was, or the text of one of the new catalogs whose
place it shares. Each of these can be read again and has every new text for which the old catalog
left room.
-/

namespace Phrasebook.Catalog

open Json (Fields Value Number Sound)

/-- Whether the catalog in a file, if there is one, leaves room for a text at the end of a path. -/
def LeavesRoom (content? : Option Disk.Content) (path : List String) : Prop :=
  ∀ text fields, content? = some (.text text) → Json.parse text = .ok (.object fields) →
    Admits path fields

/-- Whether the doubles of the catalog in a file, if there is one, can be read again. -/
def DoublesRereadable (content? : Option Disk.Content) : Prop :=
  ∀ text fields, content? = some (.text text) → Json.parse text = .ok (.object fields) →
    ∀ bits, .float bits ∈ (Value.object fields).numbers → (Number.float bits).Rereadable

abbrev Rereadable (fields : Fields) : Prop :=
  Sound Number.Rereadable Json.maxDepth (.object fields)

theorem parse_toText {fields : Fields} (h : Rereadable fields) :
    Json.parse (toText fields) = .ok (.object (Json.rereadFields fields)) := by
  have hparse := Json.parse_indented 4 h (show Json.Blanks "\n".toList by
    simp [Json.Blanks, Json.isBlank])
  rw [toText, hparse]
  rfl

theorem exists_of_load {w : Workspace} {path : String} {fields : Fields}
    (h : load w path = .ok (some fields)) :
    ∃ text, w.contentAt path = some (.text text) ∧ Json.parse text = .ok (.object fields) := by
  unfold load at h
  split at h
  · cases h
  split at h
  · cases h
  rename_i text htext
  obtain ⟨fields', hfields, hsome⟩ := exists_of_map_eq_ok h
  obtain rfl := Option.some.inj hsome
  refine ⟨text, Workspace.contentAt_of_readText htext, ?_⟩
  unfold ofText at hfields
  split at hfields
  · cases hfields
  · rename_i hparse
    obtain rfl := Except.ok.inj hfields
    exact hparse
  · cases hfields

namespace Store

variable {s : Store} {w : Workspace} {namespaceName locale : String} {fields : Fields}

theorem eq_nil_or_exists_of_loadLocale (h : s.loadLocale w namespaceName locale = .ok fields) :
    fields = [] ∨ ∃ text, w.contentAt (s.path namespaceName locale) = some (.text text) ∧
      Json.parse text = .ok (.object fields) := by
  obtain ⟨loaded, hloaded, hfields⟩ := exists_of_map_eq_ok h
  cases loaded with
  | none => exact Or.inl hfields.symm
  | some loaded => exact Or.inr (exists_of_load (hfields ▸ hloaded))

theorem loadLocale_of_mem {locales : List String} {loaded : List (String × Fields)}
    (h : s.loadLocales w namespaceName locales = .ok loaded) {c : String × Fields}
    (hc : c ∈ loaded) : s.loadLocale w namespaceName c.1 = .ok c.2 := by
  unfold loadLocales at h
  induction locales generalizing loaded with
  | nil =>
      rw [← Except.ok.inj h] at hc
      cases hc
  | cons locale locales ih =>
      rw [List.mapM_cons] at h
      obtain ⟨first, hfirst, h⟩ := exists_of_bind_eq_ok h
      obtain ⟨rest, hrest, h⟩ := exists_of_bind_eq_ok h
      obtain ⟨fields, hfields, rfl⟩ := exists_of_map_eq_ok hfirst
      rw [← Except.ok.inj h] at hc
      rcases List.mem_cons.mp hc with rfl | hc
      · exact hfields
      · exact ih hrest hc

theorem exists_of_loadExisting {existing : Existing}
    (h : s.loadExisting w namespaceName = .ok existing) :
    s.loadLocale w namespaceName s.baseLocale = .ok existing.base ∧
      ∀ c ∈ existing.mocks, s.loadLocale w namespaceName c.1 = .ok c.2 := by
  unfold loadExisting at h
  split at h
  · cases h
  · rename_i base hbase
    obtain ⟨mocks, hmocks, rfl⟩ := exists_of_map_eq_ok h
    exact ⟨hbase, fun c hc => loadLocale_of_mem hmocks hc⟩

theorem loadExisting_eq_ok {base : Fields} {mocks : List (String × Fields)}
    (hbase : s.loadLocale w namespaceName s.baseLocale = .ok base)
    (hmocks : s.loadLocales w namespaceName s.mockLocales = .ok mocks) :
    s.loadExisting w namespaceName = .ok ⟨base, mocks⟩ := by
  unfold loadExisting
  rw [hbase, hmocks]
  rfl

section

variable {content? : Option Disk.Content} {path : List String}

theorem rereadable_of_loadLocale (h : s.loadLocale w namespaceName locale = .ok fields)
    (hcontent : w.contentAt (s.path namespaceName locale) = content?)
    (hroom : LeavesRoom content? path) (hdoubles : DoublesRereadable content?) :
    Rereadable fields ∧ Admits path fields := by
  rcases eq_nil_or_exists_of_loadLocale h with rfl | ⟨text, htext, hparse⟩
  · exact ⟨.object .nil (by simp), admits_nil path⟩
  · rw [hcontent] at htext
    exact ⟨(Json.sound_of_parse hparse).rereadable (hdoubles text fields htext hparse),
      hroom text fields htext hparse⟩

/-- A new text is found in the new base catalog, and in each that shares its place. -/
theorem hasText_of_mem_updated {existing : Existing}
    (h : s.loadExisting w namespaceName = .ok existing) {translate : Translator} {fresh : Fields}
    (hfresh : Rereadable fresh) (htext : HasText path fresh) (hroom : LeavesRoom content? path)
    (hdoubles : DoublesRereadable content?)
    (hbase : w.contentAt (s.path namespaceName s.baseLocale) = content?) {c : String × Fields}
    (hc : c ∈ s.updated translate existing fresh)
    (hcontent : w.contentAt (s.path namespaceName c.1) = content?) :
    Rereadable c.2 ∧ HasText path c.2 := by
  obtain ⟨hloaded, hmocks⟩ := exists_of_loadExisting h
  obtain ⟨hold, hadmits⟩ := rereadable_of_loadLocale hloaded hbase hroom hdoubles
  have hmerged := sound_merge hold hfresh
  have hfound := htext.merge hfresh hadmits
  rcases List.mem_cons.mp hc with rfl | hc
  · exact ⟨hmerged, hfound⟩
  · obtain ⟨old, hmock, rfl⟩ := List.mem_map.mp hc
    obtain ⟨hold', hadmits'⟩ :=
      rereadable_of_loadLocale (hmocks old hmock) hcontent hroom hdoubles
    have hmocked := sound_mock translate old.1 hmerged
    exact ⟨sound_merge hold' hmocked, (hfound.mock translate old.1).merge hmocked hadmits'⟩

end

/-- After catalogs were saved, a file is what it was or the text of a catalog at its place. -/
theorem contentAt_saveLocales (s : Store) (namespaceName : String) {write : Writer}
    (hwrite : write.MayFail) (hw : w.WellFormed) (path : String)
    (catalogs : List (String × Fields)) :
    (s.saveLocales write namespaceName w catalogs).1.contentAt path = w.contentAt path ∨
      ∃ c ∈ catalogs, w.place (s.path namespaceName c.1) = w.place path ∧
        (s.saveLocales write namespaceName w catalogs).1.contentAt path =
          some (.text (toText c.2)) := by
  induction catalogs generalizing w with
  | nil => exact Or.inl rfl
  | cons catalog rest ih =>
      obtain ⟨locale, fields⟩ := catalog
      rw [saveLocales]
      simp only [save]
      split
      · rename_i w' e hsaved
        exact Or.inl ((hwrite.changes_of_failure hw hsaved).contentAt_eq hw (by simp))
      · rename_i w' hsaved
        obtain ⟨hchanges, hcontent⟩ := hwrite.changes_of_success hw hsaved
        rcases ih (hchanges.wellFormed hw) with hsame | ⟨c, hc, hplace, hlast⟩
        · by_cases hplace : w.place (s.path namespaceName locale) = w.place path
          · refine Or.inr ⟨(locale, fields), List.mem_cons_self, hplace, hsame.trans ?_⟩
            rw [Workspace.contentAt, hchanges.place_eq, hplace] at hcontent
            rw [Workspace.contentAt, hchanges.place_eq]
            exact hcontent
          · left
            rw [hsame]
            exact hchanges.contentAt_eq hw (by simpa using Ne.symm hplace)
        · rw [hchanges.place_eq, hchanges.place_eq] at hplace
          exact Or.inr ⟨c, List.mem_cons_of_mem _ hc, hplace, hlast⟩

/-- If the base catalog is not what one of the new catalogs says, the first write has failed. -/
theorem contentAt_saveNamespace {write : Writer} (hwrite : write.MayFail) (hw : w.WellFormed)
    (translate : Translator) (existing : Existing) (fresh : Fields) {w' : Workspace}
    {result : Except WriteError (List Written)}
    (h : s.saveNamespace write translate w namespaceName existing fresh = (w', result)) :
    (w'.contentAt (s.path namespaceName s.baseLocale) =
        w.contentAt (s.path namespaceName s.baseLocale) ∧ ∃ cause, result = .error cause) ∨
      ∃ c ∈ s.updated translate existing fresh,
        w.place (s.path namespaceName c.1) = w.place (s.path namespaceName s.baseLocale) ∧
        w'.contentAt (s.path namespaceName s.baseLocale) = some (.text (toText c.2)) := by
  rw [saveNamespace, updated] at h
  simp only [saveLocales, save] at h
  split at h
  · rename_i e hsaved
    obtain rfl : _ = w' := congrArg Prod.fst h
    left
    exact ⟨(hwrite.changes_of_failure hw hsaved).contentAt_eq hw (by simp), e,
      (congrArg Prod.snd h).symm⟩
  · rename_i w₁ hsaved
    obtain rfl : _ = w' := congrArg Prod.fst h
    obtain ⟨hchanges, hcontent⟩ := hwrite.changes_of_success hw hsaved
    right
    rcases contentAt_saveLocales s namespaceName hwrite (hchanges.wellFormed hw)
      (s.path namespaceName s.baseLocale) (existing.mocks.map fun c =>
        (c.1, merge c.2 (mock translate c.1 (merge existing.base fresh)))) with
      hsame | ⟨c, hc, hplace, hlast⟩
    · exact ⟨_, List.mem_cons_self, rfl, hsame.trans hcontent⟩
    · rw [hchanges.place_eq, hchanges.place_eq] at hplace
      exact ⟨c, List.mem_cons_of_mem _ hc, hplace, hlast⟩

end Store

end Phrasebook.Catalog
