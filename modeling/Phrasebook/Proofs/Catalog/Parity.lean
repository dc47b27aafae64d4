import Phrasebook.Proofs.Catalog.Merged
import Phrasebook.Proofs.Catalog.Readback

/-!
The catalogs of the mock locales beside the base catalog.

A mock locale gets every path of the base catalog: with its own value where it has one, and else
with the translation of what the base catalog says. Only a value of its own that stands on the way
can keep a path out.
-/

namespace Phrasebook.Catalog

open Json (Fields Value Number Sound)

mutual

/-- A value is another one with its texts translated. Nothing else differs. -/
inductive Translates (f : String → String) : Value → Value → Prop
  | null : Translates f .null .null
  | bool (b : Bool) : Translates f (.bool b) (.bool b)
  | number (n : Number) : Translates f (.number n) (.number n)
  | string (s : String) : Translates f (.string s) (.string (f s))
  | array {items items' : List Value} (h : TranslatesItems f items items') :
      Translates f (.array items) (.array items')
  | object {fields fields' : Fields} (h : TranslatesFields f fields fields') :
      Translates f (.object fields) (.object fields')

/-- The items of a list, each translated in its place. -/
inductive TranslatesItems (f : String → String) : List Value → List Value → Prop
  | nil : TranslatesItems f [] []
  | cons {v v' : Value} {items items' : List Value} (hv : Translates f v v')
      (h : TranslatesItems f items items') : TranslatesItems f (v :: items) (v' :: items')

/-- The fields of an object, each translated under its key. -/
inductive TranslatesFields (f : String → String) : Fields → Fields → Prop
  | nil : TranslatesFields f [] []
  | cons (key : String) {v v' : Value} {fields fields' : Fields} (hv : Translates f v v')
      (h : TranslatesFields f fields fields') :
      TranslatesFields f ((key, v) :: fields) ((key, v') :: fields')

end

/-- A catalog of a mock locale goes with the base catalog; `old` is what the locale had before. -/
structure InParity (f : String → String) (base old written : Fields) : Prop where
  covers : ∀ path v, valueAt path base = some v → v.isObject = false →
    (∃ own, valueAt path old = some own ∧ valueAt path written = some own) ∨
      (∃ v', valueAt path old = none ∧ Translates f v v' ∧ valueAt path written = some v') ∨
      Blocked path old ∧ valueAt path written = none
  keeps : ∀ path v, valueAt path old = some v → v.isObject = false →
    valueAt path written = some v
  starts : old = [] →
    TranslatesFields f base written ∧ keyCount written = keyCount base ∧
      ∀ path, (fieldsAt path written).map Fields.keys = (fieldsAt path base).map Fields.keys

section

variable {path : List String} {fields : Fields} (f : String → String)

mutual

theorem translates_mapValue : ∀ v, Translates f v (mapValue f v)
  | .null => .null
  | .bool b => .bool b
  | .number n => .number n
  | .string s => .string s
  | .array items => .array (translates_mapItems items)
  | .object fields => .object (translates_mapTexts fields)

theorem translates_mapItems : ∀ items, TranslatesItems f items (mapItems f items)
  | [] => .nil
  | v :: items => .cons (translates_mapValue v) (translates_mapItems items)

theorem translates_mapTexts : ∀ fields, TranslatesFields f fields (mapTexts f fields)
  | [] => .nil
  | (key, v) :: fields => .cons key (translates_mapValue v) (translates_mapTexts fields)

end

mutual

theorem leaves_mapValue : ∀ v, leaves (mapValue f v) = leaves v
  | .null | .bool _ | .number _ | .string _ | .array _ => by simp only [mapValue, leaves]
  | .object fields => by simpa only [mapValue, leaves] using keyCount_mapTexts fields

theorem keyCount_mapTexts : ∀ fields, keyCount (mapTexts f fields) = keyCount fields
  | [] => by rw [mapTexts]
  | (key, v) :: fields => by
      rw [mapTexts, keyCount, keyCount, leaves_mapValue v, keyCount_mapTexts fields]

end

theorem isObject_mapValue (v : Value) : (mapValue f v).isObject = v.isObject := by
  cases v <;> simp only [mapValue, Value.isObject]

theorem keys_mapTexts (fields : Fields) : Fields.keys (mapTexts f fields) = fields.keys := by
  rw [mapTexts_eq_map]
  simp [Fields.keys, Function.comp_def]

theorem fieldsAt_mapTexts (path : List String) (fields : Fields) :
    fieldsAt path (mapTexts f fields) = (fieldsAt path fields).map (mapTexts f) := by
  cases path with
  | nil => rfl
  | cons key path =>
      rw [fieldsAt, fieldsAt, valueAt_mapTexts]
      rcases valueAt (key :: path) fields with _ | v
      · rfl
      · cases v <;> simp only [Option.map_some, mapValue, Option.map_none]

end

/-- Fields with keys of their own are put behind those that are there. -/
theorem merge_eq_append {existing fresh : Fields} (h : (Fields.keys (existing ++ fresh)).Nodup) :
    merge existing fresh = existing ++ fresh := by
  induction fresh generalizing existing with
  | nil => simp [merge]
  | cons field fresh ih =>
      obtain ⟨key, value⟩ := field
      have hkey : existing.get? key = none := by
        apply Fields.get?_eq_none_iff.mpr
        intro hmem
        rw [Fields.keys, List.map_append] at h
        exact (List.nodup_append.mp h).2.2 key hmem key (by simp) rfl
      rw [List.append_cons] at h ⊢
      rw [merge, hkey]
      exact ih h

theorem UniqueKeys.merge {existing fresh : Fields} (hexisting : UniqueKeys existing)
    (hfresh : UniqueKeys fresh) : UniqueKeys (Catalog.merge existing fresh) := by
  obtain ⟨depth, hexisting⟩ := hexisting
  obtain ⟨depth', hfresh⟩ := hfresh
  exact ⟨max depth depth', sound_merge (hexisting.mono (Nat.le_max_left _ _))
    (hfresh.mono (Nat.le_max_right _ _))⟩

theorem UniqueKeys.mock {fields : Fields} (h : UniqueKeys fields) (translate : Translator)
    (locale : String) : UniqueKeys (Catalog.mock translate locale fields) := by
  obtain ⟨depth, hsound⟩ := h
  exact ⟨depth, sound_mock translate locale hsound⟩

theorem inParity_merge {base : Fields} (hbase : UniqueKeys base) (translate : Translator)
    (locale : String) (old : Fields) :
    InParity (translate locale) base old (merge old (mock translate locale base)) := by
  have hmock := hbase.mock translate locale
  have hvalue : ∀ path, valueAt path (mock translate locale base) =
      (valueAt path base).map (mapValue (translate locale)) := fun _ => valueAt_mapTexts
  constructor
  · intro path v hv hleaf
    have htranslated : valueAt path (mock translate locale base) =
        some (mapValue (translate locale) v) := by
      rw [hvalue, hv, Option.map_some]
    cases hown : valueAt path old with
    | some own =>
        refine Or.inl ⟨own, rfl, valueAt_merge_of_not_object hmock hown ?_⟩
        intro new hnew
        have hobject := isObject_mapValue (translate locale) v
        rw [Option.some.inj (htranslated.symm.trans hnew), hleaf] at hobject
        cases hobject
    | none =>
        rcases Classical.em (Blocked path old) with hblocked | hfree
        · exact Or.inr (Or.inr ⟨hblocked, (hblocked.merge hmock).valueAt_eq_none⟩)
        · refine Or.inr (Or.inl ⟨_, rfl, translates_mapValue (translate locale) v, ?_⟩)
          rw [valueAt_merge_of_none hmock hown hfree, htranslated]
  · intro path v hv hleaf
    exact valueAt_merge_of_leaf hmock hv hleaf
  · rintro rfl
    have hwritten : merge [] (mock translate locale base) = mock translate locale base :=
      merge_eq_append hmock.nodup
    rw [hwritten]
    refine ⟨translates_mapTexts _ base, keyCount_mapTexts _ base, fun path => ?_⟩
    rw [mock, fieldsAt_mapTexts, Option.map_map]
    congr 1
    funext fields
    exact keys_mapTexts _ fields

/-- Each mock locale gets a catalog that goes with the merged base catalog. -/
theorem updated_inParity {existing : Existing} {fresh : Fields} (hbase : UniqueKeys existing.base)
    (hfresh : UniqueKeys fresh) {i : Nat} {locale : String} {old : Fields}
    (hmock : existing.mocks[i]? = some (locale, old)) (s : Store) (translate : Translator) :
    ∃ base written, base = merge existing.base fresh ∧
      (s.updated translate existing fresh)[0]? = some (s.baseLocale, base) ∧
      (s.updated translate existing fresh)[i + 1]? = some (locale, written) ∧
      InParity (translate locale) base old written := by
  refine ⟨_, _, rfl, rfl, ?_, inParity_merge (hbase.merge hfresh) translate locale old⟩
  rw [Store.updated, List.getElem?_cons_succ, List.getElem?_map, hmock]
  rfl

/-- Two mock locales: one whose catalog differs from the new texts in its shape, and one without a
catalog. -/
def basketShelf : Existing := ⟨[], [("de", basket), ("fr", [])]⟩

theorem basketShelf_inParity :
    UniqueKeys basketShelf.base ∧ UniqueKeys newBasket ∧
      ∃ german french,
        (shopStore.updated bracketed basketShelf newBasket)[1]? = some ("de", german) ∧
        (shopStore.updated bracketed basketShelf newBasket)[2]? = some ("fr", french) ∧
        valueAt ["Cart", "items"] german = valueAt ["Cart", "items"] basket ∧
        valueAt ["Cart", "empty"] german = some (.string "[de] No items") ∧
        keyCount french = 4 := by
  obtain ⟨-, hnew⟩ := uniqueKeys_basket
  have hbase : UniqueKeys basketShelf.base := uniqueKeys_nil
  have hde : basketShelf.mocks[0]? = some ("de", basket) := rfl
  have hfr : basketShelf.mocks[1]? = some ("fr", []) := rfl
  obtain ⟨_, german, rfl, -, hgerman, hparity⟩ :=
    updated_inParity hbase hnew hde shopStore bracketed
  obtain ⟨_, french, rfl, -, hfrench, hstart⟩ :=
    updated_inParity hbase hnew hfr shopStore bracketed
  refine ⟨hbase, hnew, german, french, hgerman, hfrench, ?_, ?_, (hstart.starts rfl).2.1⟩
  · rcases hparity.covers ["Cart", "items"] (.string "Items") rfl rfl with
      ⟨own, hown, hwritten⟩ | ⟨_, hnone, -⟩ | ⟨hblocked, -⟩
    · rw [hown, hwritten]
    · cases hnone
    · cases hblocked.valueAt_eq_none
  · rcases hparity.covers ["Cart", "empty"] (.string "No items") rfl rfl with
      ⟨own, hown, -⟩ | ⟨_, -, htranslates, hwritten⟩ | ⟨hblocked, -⟩
    · cases hown
    · cases htranslates
      exact hwritten
    · exact absurd hblocked not_blocked_basket

end Phrasebook.Catalog
