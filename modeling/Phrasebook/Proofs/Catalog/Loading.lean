import Phrasebook.Proofs.Catalog.Store
import Phrasebook.Proofs.Disk.Growth

/-!
Loading catalogs while others are saved.

A catalog that is there is loaded as before, as long as it is not written. So a catalog that cannot
be used blocks its namespace until somebody mends it. A catalog that is missing stays missing, if
the steps up along its path can be taken from the start.
-/

namespace Phrasebook

open Disk (Location Node)

namespace Catalog

open Json (Fields)

theorem load_eq_of_node {places : List Location} {w w' : Workspace}
    (hchanges : w.Changes places w') (hw : w.WellFormed) {path : String}
    (hfree : w.place path ∉ places) {n : Node} (hnode : w.node path = .ok n) :
    load w' path = load w path := by
  obtain ⟨n', hnode', hcontent⟩ := hchanges.node_eq hw hfree hnode
  rw [load, load, Workspace.readText_eq_of_node hnode hnode' hcontent]
  simp only [Workspace.has, hnode, hnode']

theorem load_eq_of_grows {places : List Location} {w w' : Workspace}
    (hgrows : w.Grows places w') (hw : w.WellFormed) (hrooted : w.Rooted) {path : String}
    (hsteady : w.Steady path) (hfree : w.place path ∉ places)
    (hnew : ∀ place ∈ places, w.place path <+: place → w.disk.get? (w.place path) ≠ none) :
    load w' path = load w path := by
  cases hnode : w.node path with
  | ok n => exact load_eq_of_node hgrows.toChanges hw hfree hnode
  | error cause =>
      cases hnode' : w'.node path with
      | ok n' =>
          obtain ⟨n, hn⟩ := hgrows.exists_node hw hrooted hsteady hfree hnew hnode'
          rw [hnode] at hn
          cases hn
      | error cause' => simp only [load, Workspace.has, hnode, hnode', Bool.not_false, if_true]

theorem node_of_load_eq_error {w : Workspace} {path : String} {cause : LoadError}
    (h : load w path = .error cause) : ∃ n, w.node path = .ok n := by
  unfold load Workspace.has at h
  cases hnode : w.node path with
  | ok n => exact ⟨n, rfl⟩
  | error e => simp [hnode] at h

/-- A catalog that is there, and does not hold the text of a JSON object. -/
def Unusable (w : Workspace) (path : String) : Prop :=
  w.has path = true ∧ ∀ text, w.readText path = .ok text →
    ∀ fields, Json.parse text ≠ .ok (.object fields)

theorem exists_load_eq_error_iff {w : Workspace} {path : String} :
    (∃ cause, load w path = .error cause) ↔ Unusable w path := by
  unfold load Unusable
  cases w.has path with
  | false => simp
  | true =>
      cases w.readText path with
      | error e => simp
      | ok text =>
          simp only [Bool.not_true, Bool.false_eq_true, if_false, true_and, Except.ok.injEq,
            forall_eq', map_eq_error_iff]
          unfold ofText
          rcases Json.parse text with e | value
          · simp
          · cases value <;> simp

namespace Store

variable {s : Store} {w w' : Workspace} {namespaceName : String}

theorem loadLocale_eq_error_iff {locale : String} {cause : LoadError} :
    s.loadLocale w namespaceName locale = .error cause ↔
      load w (s.path namespaceName locale) = .error cause := by
  rw [loadLocale, map_eq_error_iff]

theorem exists_loadLocales_eq_error_iff {locales : List String} :
    (∃ cause, s.loadLocales w namespaceName locales = .error cause) ↔
      ∃ locale ∈ locales, ∃ cause, load w (s.path namespaceName locale) = .error cause := by
  rw [loadLocales, mapM_eq_error_iff]
  refine exists_congr fun locale => and_congr_right fun _ => exists_congr fun cause => ?_
  rw [map_eq_error_iff, loadLocale_eq_error_iff]

/-- Catalogs cannot be used if one of them cannot. -/
theorem exists_loadExisting_eq_error_iff :
    (∃ cause, s.loadExisting w namespaceName = .error cause) ↔
      ∃ locale ∈ s.baseLocale :: s.mockLocales, ∃ cause,
        load w (s.path namespaceName locale) = .error cause := by
  have hcons : (∃ locale ∈ s.baseLocale :: s.mockLocales, ∃ cause,
        load w (s.path namespaceName locale) = .error cause) ↔
      (∃ cause, s.loadLocale w namespaceName s.baseLocale = .error cause) ∨
        ∃ cause, s.loadLocales w namespaceName s.mockLocales = .error cause := by
    rw [exists_loadLocales_eq_error_iff]
    simp only [List.mem_cons, exists_eq_or_imp, loadLocale_eq_error_iff]
  rw [hcons]
  unfold loadExisting
  cases s.loadLocale w namespaceName s.baseLocale with
  | error cause => exact ⟨fun _ => Or.inl ⟨cause, rfl⟩, fun _ => ⟨cause, rfl⟩⟩
  | ok base =>
      cases s.loadLocales w namespaceName s.mockLocales with
      | error cause => exact ⟨fun _ => Or.inr ⟨cause, rfl⟩, fun _ => ⟨cause, rfl⟩⟩
      | ok mocks =>
          refine ⟨?_, ?_⟩
          · rintro ⟨cause, h⟩
            cases h
          · rintro (⟨cause, h⟩ | ⟨cause, h⟩) <;> cases h

/-- Catalogs that cannot be used stay so while others are written. -/
theorem loadExisting_eq_error_of_changes {places : List Location} (hchanges : w.Changes places w')
    (hw : w.WellFormed) (hfree : ∀ loc ∈ s.places w namespaceName, loc ∉ places)
    (h : ∃ cause, s.loadExisting w namespaceName = .error cause) :
    ∃ cause, s.loadExisting w' namespaceName = .error cause := by
  obtain ⟨locale, hlocale, cause, hcause⟩ := exists_loadExisting_eq_error_iff.mp h
  obtain ⟨n, hnode⟩ := node_of_load_eq_error hcause
  have hplace : w.place (s.path namespaceName locale) ∉ places :=
    hfree _ (place_mem_places hlocale w namespaceName)
  refine exists_loadExisting_eq_error_iff.mpr ⟨locale, hlocale, cause, ?_⟩
  rw [load_eq_of_node hchanges hw hplace hnode, hcause]

theorem loadExisting_congr (h : ∀ locale ∈ s.baseLocale :: s.mockLocales,
      load w' (s.path namespaceName locale) = load w (s.path namespaceName locale)) :
    s.loadExisting w' namespaceName = s.loadExisting w namespaceName := by
  have hlocale : ∀ locale ∈ s.baseLocale :: s.mockLocales,
      s.loadLocale w' namespaceName locale = s.loadLocale w namespaceName locale := by
    intro locale hmem
    rw [loadLocale, loadLocale, h locale hmem]
  have hlocales : ∀ locales ⊆ s.mockLocales,
      s.loadLocales w' namespaceName locales = s.loadLocales w namespaceName locales := by
    intro locales hsub
    unfold loadLocales
    induction locales with
    | nil => rw [List.mapM_nil, List.mapM_nil]
    | cons locale locales ih =>
        rw [List.mapM_cons, List.mapM_cons, ih fun l hl => hsub (List.mem_cons_of_mem _ hl),
          hlocale locale (List.mem_cons_of_mem _ (hsub List.mem_cons_self))]
  unfold loadExisting
  rw [hlocale _ List.mem_cons_self, hlocales _ (fun _ hmem => hmem)]

theorem loadExisting_of_missing (h : ∀ path ∈ s.paths namespaceName, w.has path = false) :
    s.loadExisting w namespaceName = .ok ⟨[], s.mockLocales.map fun locale => (locale, [])⟩ := by
  have hlocale : ∀ locale ∈ s.baseLocale :: s.mockLocales,
      s.loadLocale w namespaceName locale = .ok [] := by
    intro locale hmem
    simp only [loadLocale, load, h _ (List.mem_map_of_mem hmem), Bool.not_false, if_true,
      Except.map, Option.getD_none]
  have hmocks : ∀ c ∈ s.mockLocales.map fun locale => (locale, ([] : Fields)),
      s.loadLocale w namespaceName c.1 = .ok c.2 := by
    intro c hc
    obtain ⟨locale, hmem, rfl⟩ := List.mem_map.mp hc
    exact hlocale locale (List.mem_cons_of_mem _ hmem)
  have hlocales : s.loadLocales w namespaceName s.mockLocales =
      .ok (s.mockLocales.map fun locale => (locale, [])) := by
    simpa [Function.comp_def] using loadLocales_eq_ok hmocks
  unfold loadExisting
  rw [hlocale _ List.mem_cons_self, hlocales]
  rfl

theorem place_path (w : Workspace) {locale : String} (hlocale : Path.IsName locale)
    (hname : Path.IsName namespaceName) :
    w.place (s.path namespaceName locale) =
      w.place s.root ++ [locale, namespaceName ++ ".json"] := by
  rw [path, w.place_join _ (isName_catalog hname), w.place_join _ hlocale, List.append_assoc]
  rfl

theorem steady_path (hroot : w.Steady s.root) {locale : String} (hlocale : Path.IsName locale)
    (hname : Path.IsName namespaceName) : w.Steady (s.path namespaceName locale) :=
  (hroot.join hlocale).join (isName_catalog hname)

section

variable (hlocales : ∀ locale ∈ s.baseLocale :: s.mockLocales, Path.IsName locale)
include hlocales

/-- No catalog lies below another one. -/
theorem eq_of_prefix_places {other : String} (hname : Path.IsName namespaceName)
    (hother : Path.IsName other) {loc loc' : Location} (hloc : loc ∈ s.places w namespaceName)
    (hloc' : loc' ∈ s.places w other) (h : loc <+: loc') : loc = loc' := by
  obtain ⟨path, hpath, rfl⟩ := List.mem_map.mp hloc
  obtain ⟨path', hpath', rfl⟩ := List.mem_map.mp hloc'
  obtain ⟨locale, hlocale, rfl⟩ := List.mem_map.mp hpath
  obtain ⟨locale', hlocale', rfl⟩ := List.mem_map.mp hpath'
  refine h.eq_of_length ?_
  rw [place_path w (hlocales _ hlocale) hname, place_path w (hlocales _ hlocale') hother]
  simp

theorem not_prefix_places {other : String} (hname : Path.IsName namespaceName)
    (hother : Path.IsName other) (hne : namespaceName ≠ other) {loc loc' : Location}
    (hloc : loc ∈ s.places w namespaceName) (hloc' : loc' ∈ s.places w other) :
    ¬ loc <+: loc' := by
  intro h
  have heq := eq_of_prefix_places hlocales hname hother hloc hloc' h
  exact not_mem_places hname hother hne hloc (heq ▸ hloc')

/-- The catalogs of a namespace are loaded as before, if nothing was written but other catalogs and
files that were there. -/
theorem loadExisting_eq_of_grows {places : List Location} (hgrows : w.Grows places w')
    (hw : w.WellFormed) (hrooted : w.Rooted) (hroot : w.Steady s.root)
    (hname : Path.IsName namespaceName)
    (hfree : ∀ loc ∈ s.places w namespaceName, loc ∉ places)
    (hplaces : ∀ loc ∈ places, w.disk.get? loc ≠ none ∨
      ∃ other, Path.IsName other ∧ loc ∈ s.places w other) :
    s.loadExisting w' namespaceName = s.loadExisting w namespaceName := by
  refine loadExisting_congr fun locale hlocale => ?_
  have hmem := place_mem_places hlocale w namespaceName
  refine load_eq_of_grows hgrows hw hrooted (steady_path hroot (hlocales _ hlocale) hname)
    (hfree _ hmem) fun place hplace hprefix => ?_
  rcases hplaces place hplace with hthere | ⟨other, hother, hplace'⟩
  · obtain ⟨node, hnode⟩ := Option.ne_none_iff_exists'.mp hthere
    obtain ⟨node', hnode'⟩ := hrooted.get?_of_prefix hprefix hnode
    rw [hnode']
    simp
  · have heq := eq_of_prefix_places hlocales hname hother hmem hplace' hprefix
    exact absurd (heq ▸ hplace) (hfree _ hmem)

end

/-- Catalogs that could all be written: the report names them in their order. -/
theorem grows_saveLocales {write : Writer} (hwrite : write.MayFail) (hw : w.WellFormed)
    {catalogs : List (String × Fields)}
    (hsteady : ∀ c ∈ catalogs, w.Steady (s.path namespaceName c.1)) {written : List Written}
    (h : s.saveLocales write namespaceName w catalogs = (w', .ok written)) :
    w.Grows (catalogs.map fun c => w.place (s.path namespaceName c.1)) w' ∧
      written.map (·.path) = catalogs.map fun c => s.path namespaceName c.1 := by
  induction catalogs generalizing w written with
  | nil =>
      rw [saveLocales] at h
      cases h
      exact ⟨.refl hw, rfl⟩
  | cons catalog rest ih =>
      obtain ⟨next, others, hsaved, hrest, rfl⟩ := exists_of_saveLocales_cons h
      have hfirst := hwrite.grows_of_success hw (hsteady _ List.mem_cons_self) hsaved
      obtain ⟨hgrows, hpaths⟩ := ih (hfirst.wellFormed hw)
        (fun c hc => hfirst.steady (hsteady c (List.mem_cons_of_mem _ hc))) hrest
      have hplace : next.place = w.place := funext hfirst.place_eq
      rw [hplace] at hgrows
      refine ⟨(hfirst.mono (by simp)).trans (hgrows.mono (by simp)), ?_⟩
      rw [List.map_cons, List.map_cons, hpaths]

theorem grows_saveNamespace {write : Writer} {w₀ : Workspace} {existing : Existing}
    (hwrite : write.MayFail) (hw : w.WellFormed)
    (hsteady : ∀ path ∈ s.paths namespaceName, w.Steady path)
    (hloaded : s.loadExisting w₀ namespaceName = .ok existing) {translate : Translator}
    {fresh : Fields} {written : List Written}
    (h : s.saveNamespace write translate w namespaceName existing fresh = (w', .ok written)) :
    w.Grows (s.places w namespaceName) w' ∧ written.map (·.path) = s.paths namespaceName := by
  have hpaths := map_path_updated hloaded translate fresh
  obtain ⟨hgrows, hwritten⟩ := grows_saveLocales hwrite hw
    (fun c hc => hsteady _ (hpaths ▸ List.mem_map_of_mem hc)) h
  rw [hpaths] at hwritten
  rw [map_place_updated hloaded] at hgrows
  exact ⟨hgrows, hwritten⟩

end Store

end Catalog

end Phrasebook
