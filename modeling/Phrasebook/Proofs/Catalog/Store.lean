import Phrasebook.Catalog.Store
import Phrasebook.Proofs.Disk.Write
import Phrasebook.Proofs.Result

/-!
Which files a store writes.

The catalogs of a namespace carry its name, so two namespaces never share a catalog. Saving the
catalogs of a namespace changes no other file, whether all of them can be written or not.
-/

namespace Phrasebook.Catalog

open Disk (Location)
open Json (Fields)

theorem isName_catalog {name : String} (h : Path.IsName name) : Path.IsName (name ++ ".json") := by
  obtain ⟨hempty, -, -, hslash⟩ := h
  have hlong : ∀ text : String, text.toList.length < 5 → name ++ ".json" ≠ text := by
    rintro text htext rfl
    have hjson : ".json".toList.length = 5 := rfl
    rw [String.toList_append, List.length_append, hjson] at htext
    omega
  exact ⟨hlong "" (by decide), hlong "." (by decide), hlong ".." (by decide), by simpa using hslash⟩

namespace Store

def places (s : Store) (w : Workspace) (namespaceName : String) : List Location :=
  (s.paths namespaceName).map w.place

theorem place_mem_places {s : Store} {locale : String}
    (h : locale ∈ s.baseLocale :: s.mockLocales) (w : Workspace) (namespaceName : String) :
    w.place (s.path namespaceName locale) ∈ s.places w namespaceName :=
  List.mem_map_of_mem (List.mem_map_of_mem h)

theorem places_eq_of_directory {w w' : Workspace} (h : w'.directory = w.directory) (s : Store)
    (namespaceName : String) : s.places w' namespaceName = s.places w namespaceName := by
  have hplace : w'.place = w.place := funext (Workspace.place_eq_of_directory h)
  rw [places, places, hplace]

theorem getLast?_of_mem_places {s : Store} {w : Workspace} {namespaceName : String}
    (hname : Path.IsName namespaceName) {loc : Location} (h : loc ∈ s.places w namespaceName) :
    loc.getLast? = some (namespaceName ++ ".json") := by
  obtain ⟨path, hpath, rfl⟩ := List.mem_map.mp h
  obtain ⟨locale, -, rfl⟩ := List.mem_map.mp hpath
  rw [Store.path, w.place_join _ (isName_catalog hname)]
  simp

theorem not_mem_places {s : Store} {w : Workspace} {name other : String}
    (hname : Path.IsName name) (hother : Path.IsName other) (hne : name ≠ other) {loc : Location}
    (h : loc ∈ s.places w name) : loc ∉ s.places w other := by
  intro h'
  have hlast := getLast?_of_mem_places hname h
  rw [getLast?_of_mem_places hother h'] at hlast
  exact hne ((String.append_left_inj ".json").mp (Option.some.inj hlast)).symm

theorem map_fst_of_loadLocales {s : Store} {w : Workspace} {namespaceName : String}
    {locales : List String} {loaded : List (String × Fields)}
    (h : s.loadLocales w namespaceName locales = .ok loaded) : loaded.map (·.1) = locales := by
  unfold loadLocales at h
  induction locales generalizing loaded with
  | nil => exact Except.ok.inj h ▸ rfl
  | cons locale locales ih =>
      rw [List.mapM_cons] at h
      obtain ⟨first, hfirst, h⟩ := exists_of_bind_eq_ok h
      obtain ⟨rest, hrest, h⟩ := exists_of_bind_eq_ok h
      obtain ⟨fields, -, rfl⟩ := exists_of_map_eq_ok hfirst
      obtain rfl := Except.ok.inj h
      rw [List.map_cons, ih hrest]

theorem loadLocales_eq_ok {s : Store} {w : Workspace} {namespaceName : String}
    {loaded : List (String × Fields)}
    (h : ∀ c ∈ loaded, s.loadLocale w namespaceName c.1 = .ok c.2) :
    s.loadLocales w namespaceName (loaded.map (·.1)) = .ok loaded := by
  unfold loadLocales
  induction loaded with
  | nil => rfl
  | cons c loaded ih =>
      rw [List.map_cons, List.mapM_cons, h c List.mem_cons_self,
        ih fun c' hc' => h c' (List.mem_cons_of_mem _ hc')]
      rfl

theorem map_fst_of_loadExisting {s : Store} {w : Workspace} {namespaceName : String}
    {existing : Existing} (h : s.loadExisting w namespaceName = .ok existing) :
    existing.mocks.map (·.1) = s.mockLocales := by
  unfold loadExisting at h
  split at h
  · cases h
  · obtain ⟨mocks, hmocks, rfl⟩ := exists_of_map_eq_ok h
    exact map_fst_of_loadLocales hmocks

theorem map_fst_updated (s : Store) (translate : Translator) (existing : Existing)
    (fresh : Fields) :
    (s.updated translate existing fresh).map (·.1) = s.baseLocale :: existing.mocks.map (·.1) := by
  simp [updated]

theorem exists_of_saveLocales_cons {s : Store} {write : Writer} {w w' : Workspace}
    {namespaceName : String} {catalog : String × Fields} {rest : List (String × Fields)}
    {written : List Written}
    (h : s.saveLocales write namespaceName w (catalog :: rest) = (w', .ok written)) :
    ∃ next others,
      save write w (s.path namespaceName catalog.1) catalog.2 = (next, none) ∧
        s.saveLocales write namespaceName next rest = (w', .ok others) ∧
        written = ⟨catalog.1, s.path namespaceName catalog.1, keyCount catalog.2⟩ :: others := by
  rw [saveLocales] at h
  simp only at h
  split at h
  · cases h
  rename_i next hsaved
  rcases hrest : s.saveLocales write namespaceName next rest with ⟨last, _ | others⟩
  · rw [hrest] at h
    cases h
  · rw [hrest] at h
    cases h
    exact ⟨next, others, hsaved, hrest, rfl⟩

/-- Saving catalogs changes no other file, even if it fails halfway. -/
theorem changes_saveLocales {s : Store} {write : Writer} {w : Workspace} (hwrite : write.MayFail)
    (hw : w.WellFormed) (namespaceName : String) (catalogs : List (String × Fields)) :
    w.Changes (catalogs.map fun c => w.place (s.path namespaceName c.1))
      (s.saveLocales write namespaceName w catalogs).1 := by
  induction catalogs generalizing w with
  | nil => exact .refl hw
  | cons catalog rest ih =>
      obtain ⟨locale, fields⟩ := catalog
      have hfirst := hwrite.changes hw (s.path namespaceName locale) (.text (toText fields))
      have hsub : [w.place (s.path namespaceName locale)] ⊆
          ((locale, fields) :: rest).map fun c => w.place (s.path namespaceName c.1) := by simp
      rw [saveLocales]
      simp only [save]
      split
      · rename_i w' e hsaved
        rw [hsaved] at hfirst
        exact hfirst.mono hsub
      · rename_i w' hsaved
        rw [hsaved] at hfirst
        have hrest := ih (hfirst.wellFormed hw)
        have hplace : w'.place = w.place :=
          funext (Workspace.place_eq_of_directory hfirst.directory)
        rw [hplace] at hrest
        exact (hfirst.mono hsub).trans (hrest.mono (by simp))

theorem map_path_updated {s : Store} {w : Workspace} {namespaceName : String}
    {existing : Existing} (hloaded : s.loadExisting w namespaceName = .ok existing)
    (translate : Translator) (fresh : Fields) :
    (s.updated translate existing fresh).map (fun c => s.path namespaceName c.1) =
      s.paths namespaceName := by
  rw [paths, ← map_fst_of_loadExisting hloaded, ← map_fst_updated s translate existing fresh,
    List.map_map]
  rfl

theorem map_place_updated {s : Store} {w : Workspace} {namespaceName : String}
    {existing : Existing} (hloaded : s.loadExisting w namespaceName = .ok existing)
    (translate : Translator) (fresh : Fields) (w' : Workspace) :
    (s.updated translate existing fresh).map (fun c => w'.place (s.path namespaceName c.1)) =
      s.places w' namespaceName := by
  rw [places, ← map_path_updated hloaded translate fresh, List.map_map]
  rfl

theorem changes_saveNamespace {s : Store} {write : Writer} {w w₀ : Workspace}
    {namespaceName : String} {existing : Existing} (hwrite : write.MayFail) (hw : w.WellFormed)
    (hloaded : s.loadExisting w₀ namespaceName = .ok existing) (translate : Translator)
    (fresh : Fields) :
    w.Changes (s.places w namespaceName)
      (s.saveNamespace write translate w namespaceName existing fresh).1 := by
  have hchanges := changes_saveLocales (s := s) hwrite hw namespaceName
    (s.updated translate existing fresh)
  rwa [map_place_updated hloaded] at hchanges

end Store

end Phrasebook.Catalog
