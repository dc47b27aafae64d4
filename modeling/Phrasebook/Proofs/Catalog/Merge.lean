import Phrasebook.Proofs.Catalog.Basic
import Phrasebook.Proofs.Json.Value

/-!
Looking texts up in catalogs that were filled, merged or translated.

A path leads through objects to a value. Where a catalog has a text at a path, it keeps a text there
when others are put in, when it is translated, and when it is merged into a catalog that holds
nothing else on the path.
-/

namespace Phrasebook.Catalog

open Json (Fields Value Number Sound)

def valueAt : List String → Fields → Option Value
  | [], _ => none
  | [key], fields => fields.get? key
  | key :: path, fields => valueAt path (innerFields (fields.get? key))

def HasText (path : List String) (fields : Fields) : Prop :=
  ∃ text, valueAt path fields = some (.string text)

/-- Whether there is nothing but objects on the way along a path, and nothing but a text at its
end. -/
def Admits : List String → Fields → Prop
  | [], _ => True
  | [key], fields => ∀ v, fields.get? key = some v → ∃ text, v = .string text
  | key :: path, fields =>
      ∀ v, fields.get? key = some v → ∃ inner, v = .object inner ∧ Admits path inner

theorem valueAt_nil (path : List String) : valueAt path [] = none := by
  induction path with
  | nil => rfl
  | cons key path ih =>
      cases path with
      | nil => rfl
      | cons next path => exact ih

theorem admits_nil (path : List String) : Admits path [] := by
  cases path with
  | nil => trivial
  | cons key path =>
      cases path with
      | nil =>
          intro v hv
          cases hv
      | cons next path =>
          intro v hv
          cases hv

section

variable {text : String} {path : List String} {fields : Fields}

theorem insertAt_cons (key next : String) :
    insertAt text (key :: next :: path) fields =
      fields.set key (.object (insertAt text (next :: path) (innerFields (fields.get? key)))) :=
  rfl

theorem valueAt_cons (key next : String) :
    valueAt (key :: next :: path) fields =
      valueAt (next :: path) (innerFields (fields.get? key)) :=
  rfl

theorem valueAt_insertAt (hpath : path ≠ []) :
    valueAt path (insertAt text path fields) = some (.string text) := by
  induction path generalizing fields with
  | nil => exact absurd rfl hpath
  | cons key path ih =>
      cases path with
      | nil => simp [insertAt, valueAt]
      | cons next path =>
          rw [insertAt_cons, valueAt_cons, Fields.get?_set_self]
          exact ih (List.cons_ne_nil next path)

theorem hasText_insertAt (hpath : path ≠ []) : HasText path (insertAt text path fields) :=
  ⟨text, valueAt_insertAt hpath⟩

/-- A text stays a text when another is put at a path of the same length. -/
theorem HasText.insertAt {path' : List String} (h : HasText path' fields)
    (hlength : path'.length = path.length) : HasText path' (insertAt text path fields) := by
  induction path generalizing path' fields with
  | nil => exact h
  | cons key path ih =>
      obtain ⟨key', rest, rfl⟩ := List.exists_cons_of_length_eq_add_one hlength
      have hrest : rest.length = path.length := by simpa using hlength
      cases path with
      | nil =>
          obtain rfl := List.eq_nil_of_length_eq_zero hrest
          by_cases hkey : key' = key
          · exact ⟨text, by rw [hkey]; exact Fields.get?_set_self key _ fields⟩
          · obtain ⟨old, hold⟩ := h
            exact ⟨old, (Fields.get?_set_of_ne hkey _ fields).trans hold⟩
      | cons next path =>
          obtain ⟨next', rest, rfl⟩ := List.exists_cons_of_length_eq_add_one hrest
          rw [HasText, insertAt_cons, valueAt_cons]
          by_cases hkey : key' = key
          · subst hkey
            rw [Fields.get?_set_self]
            exact ih h hrest
          · rw [Fields.get?_set_of_ne hkey]
            exact h

theorem get?_merge {fresh : Fields} (hfresh : fresh.keys.Nodup) (key : String)
    (existing : Fields) :
    (merge existing fresh).get? key =
      match existing.get? key, fresh.get? key with
      | none, value? => value?
      | some old, none => some old
      | some old, some value => some (mergeValue old value) := by
  induction fresh generalizing existing with
  | nil =>
      rw [merge]
      cases existing.get? key <;> rfl
  | cons f fresh ih =>
      obtain ⟨k, v⟩ := f
      obtain ⟨hk, hrest⟩ := List.nodup_cons.mp hfresh
      by_cases hkey : k = key
      · subst hkey
        have hnone : Fields.get? k fresh = none := Fields.get?_eq_none_iff.mpr hk
        cases hold : existing.get? k with
        | none => simp [merge, hold, ih hrest, Fields.get?_append, Fields.get?, hnone]
        | some old => simp [merge, hold, ih hrest, Fields.get?, hnone]
      · have hcons : Fields.get? key ((k, v) :: fresh) = Fields.get? key fresh := by
          rw [Fields.get?, if_neg hkey]
        rw [hcons]
        cases hold : existing.get? k with
        | none => simp [merge, hold, ih hrest, Fields.get?_append, Fields.get?, hkey]
        | some old => simp [merge, hold, ih hrest, Fields.get?_set_of_ne (Ne.symm hkey)]

theorem exists_of_hasText_innerFields {value? : Option Value}
    (h : HasText path (innerFields value?)) : ∃ inner, value? = some (.object inner) := by
  unfold innerFields at h
  split at h
  · exact ⟨_, rfl⟩
  · obtain ⟨_, htext⟩ := h
    rw [valueAt_nil] at htext
    cases htext

/-- A text that is merged into a catalog with nothing else on its path is found there. -/
theorem HasText.merge {ok : Number → Prop} {depth : Nat} {existing fresh : Fields}
    (h : HasText path fresh) (hsound : Sound ok depth (.object fresh))
    (hadmits : Admits path existing) : HasText path (merge existing fresh) := by
  induction path generalizing existing fresh depth with
  | nil =>
      obtain ⟨_, hvalue⟩ := h
      cases hvalue
  | cons key path ih =>
      cases hsound with
      | object hkeys hfields =>
          have hget := get?_merge hkeys key existing
          cases path with
          | nil =>
              obtain ⟨text, htext⟩ := h
              rw [valueAt] at htext
              rw [HasText, valueAt, hget, htext]
              cases hold : existing.get? key with
              | none => exact ⟨text, rfl⟩
              | some old =>
                  obtain ⟨text', rfl⟩ := hadmits old hold
                  exact ⟨text', rfl⟩
          | cons next path =>
              rw [HasText, valueAt_cons] at h
              rw [HasText, valueAt_cons, hget]
              cases hold : existing.get? key with
              | none => exact h
              | some old =>
                  obtain ⟨inner, rfl, hinner⟩ := hadmits old hold
                  obtain ⟨inner', hvalue⟩ := exists_of_hasText_innerFields h
                  rw [hvalue] at h ⊢
                  simp only [mergeValue]
                  exact ih h (hfields _ (Fields.mem_of_get? hvalue)) hinner

/-- A map of values that goes along with the fields of objects goes along with lookups. -/
theorem valueAt_map {f : Value → Value} {g : Fields → Fields}
    (hget : ∀ key fields, Fields.get? key (g fields) = (Fields.get? key fields).map f)
    (hinner : ∀ value?, innerFields (Option.map f value?) = g (innerFields value?)) :
    valueAt path (g fields) = (valueAt path fields).map f := by
  induction path generalizing fields with
  | nil => rfl
  | cons key path ih =>
      cases path with
      | nil => exact hget key fields
      | cons next path => rw [valueAt_cons, valueAt_cons, hget, hinner, ih]

theorem get?_mapTexts (f : String → String) (key : String) (fields : Fields) :
    Fields.get? key (mapTexts f fields) = (Fields.get? key fields).map (mapValue f) := by
  induction fields with
  | nil => rfl
  | cons field fields ih =>
      obtain ⟨k, v⟩ := field
      by_cases hk : k = key
      · simp [mapTexts, Fields.get?, hk]
      · simp [mapTexts, Fields.get?, hk, ih]

theorem valueAt_mapTexts {f : String → String} :
    valueAt path (mapTexts f fields) = (valueAt path fields).map (mapValue f) := by
  refine valueAt_map (get?_mapTexts f) fun value? => ?_
  rcases value? with _ | (_ | _ | _ | _ | _ | _) <;> rfl

theorem HasText.mock (h : HasText path fields) (translate : Translator) (locale : String) :
    HasText path (mock translate locale fields) := by
  obtain ⟨text, htext⟩ := h
  refine ⟨translate locale text, ?_⟩
  rw [Catalog.mock, valueAt_mapTexts, htext]
  rfl

theorem HasText.reread (h : HasText path fields) : HasText path (Json.rereadFields fields) := by
  obtain ⟨text, htext⟩ := h
  have hmap : valueAt path (Json.rereadFields fields) =
      (valueAt path fields).map Value.reread := by
    refine valueAt_map Json.get?_rereadFields fun value? => ?_
    rcases value? with _ | (_ | _ | _ | _ | _ | _) <;> rfl
  refine ⟨text, ?_⟩
  rw [hmap, htext]
  rfl

end

section

variable {ok : Number → Prop} {depth : Nat}

theorem sound_innerFields {fields : Fields} (h : Sound ok (depth + 1) (.object fields))
    (key : String) (hdepth : 0 < depth) :
    Sound ok depth (.object (innerFields (fields.get? key))) := by
  unfold innerFields
  split
  · rename_i inner hinner
    exact h.fields.2 _ (Fields.mem_of_get? hinner)
  · obtain ⟨depth, rfl⟩ := Nat.exists_eq_succ_of_ne_zero (Nat.ne_of_gt hdepth)
    exact .object .nil (by simp)

theorem sound_insertAt {path : List String} {fields : Fields} (text : String)
    (h : Sound ok depth (.object fields)) (hpath : path.length ≤ depth) :
    Sound ok depth (.object (insertAt text path fields)) := by
  induction path generalizing fields depth with
  | nil => exact h
  | cons key path ih =>
      obtain ⟨depth, rfl⟩ := Nat.exists_eq_succ_of_ne_zero
        (Nat.ne_of_gt (Nat.lt_of_lt_of_le (Nat.succ_pos path.length) hpath))
      cases path with
      | nil => exact h.set key (.string text)
      | cons next path =>
          have hlength : (next :: path).length ≤ depth := Nat.le_of_succ_le_succ hpath
          refine h.set key (ih (sound_innerFields h key ?_) hlength)
          exact Nat.lt_of_lt_of_le (Nat.succ_pos path.length) hlength

theorem sound_extend {fields : Fields} {entries : List Entry}
    (h : Sound ok depth (.object fields))
    (hpaths : ∀ e ∈ entries, (keyPath e.key).length ≤ depth) :
    Sound ok depth (.object (extend fields entries)) := by
  induction entries generalizing fields with
  | nil => exact h
  | cons e entries ih =>
      exact ih (sound_insertAt e.text h (hpaths e List.mem_cons_self))
        fun e' he' => hpaths e' (List.mem_cons_of_mem _ he')

theorem sound_mergeFields {existing fresh : Fields} (h : Sound ok (depth + 1) (.object existing))
    (hfresh : ∀ f ∈ fresh, Sound ok depth f.2 ∧
      ∀ old, Sound ok depth old → Sound ok depth (mergeValue old f.2)) :
    Sound ok (depth + 1) (.object (merge existing fresh)) := by
  induction fresh generalizing existing with
  | nil => simpa [merge] using h
  | cons f fresh ih =>
      obtain ⟨key, value⟩ := f
      obtain ⟨hvalue, hmerged⟩ := hfresh _ List.mem_cons_self
      have hrest := fun f' (hf' : f' ∈ fresh) => hfresh f' (List.mem_cons_of_mem _ hf')
      rw [merge]
      split
      · rename_i hnone
        refine ih ?_ hrest
        rw [← Fields.set_of_not_mem value (Fields.get?_eq_none_iff.mp hnone)]
        exact h.set key hvalue
      · rename_i old hold
        exact ih (h.set key (hmerged old (h.fields.2 _ (Fields.mem_of_get? hold)))) hrest

theorem sound_mergeValue {old value : Value} (hold : Sound ok depth old)
    (h : Sound ok depth value) : Sound ok depth (mergeValue old value) := by
  induction h generalizing old with
  | object hkeys hfields ih =>
      unfold mergeValue
      split
      · exact sound_mergeFields hold fun f hf => ⟨hfields f hf, fun _ => ih f hf⟩
      · exact hold
  | _ => exact hold

theorem sound_merge {existing fresh : Fields} (h : Sound ok depth (.object existing))
    (hfresh : Sound ok depth (.object fresh)) :
    Sound ok depth (.object (merge existing fresh)) := by
  have hmerged := sound_mergeValue h hfresh
  rwa [mergeValue] at hmerged

theorem mapItems_eq_map (f : String → String) (items : List Value) :
    mapItems f items = items.map (mapValue f) := by
  induction items with
  | nil => rfl
  | cons v items ih => rw [mapItems, ih, List.map_cons]

theorem mapTexts_eq_map (f : String → String) (fields : Fields) :
    mapTexts f fields = fields.map fun field => (field.1, mapValue f field.2) := by
  induction fields with
  | nil => rfl
  | cons field fields ih => rw [mapTexts, ih, List.map_cons]

theorem sound_mapValue (f : String → String) {value : Value} (h : Sound ok depth value) :
    Sound ok depth (mapValue f value) := by
  induction h with
  | null => exact .null
  | bool b => exact .bool b
  | number h => exact .number h
  | string s => exact .string (f s)
  | array _ ih =>
      rw [mapValue, mapItems_eq_map]
      refine .array fun v hv => ?_
      obtain ⟨u, hu, rfl⟩ := List.mem_map.mp hv
      exact ih u hu
  | object hkeys _ ih =>
      rw [mapValue, mapTexts_eq_map]
      refine .object (by simpa [Fields.keys, Function.comp_def] using hkeys) fun field hfield => ?_
      obtain ⟨g, hg, rfl⟩ := List.mem_map.mp hfield
      exact ih g hg

theorem sound_mock (translate : Translator) (locale : String) {fields : Fields}
    (h : Sound ok depth (.object fields)) :
    Sound ok depth (.object (mock translate locale fields)) :=
  sound_mapValue (translate locale) h

end

/-- All texts with paths of one length are found after they were put in. -/
theorem hasText_extend {n : Nat} {path : List String} {entries : List Entry} {fields : Fields}
    (hentries : ∀ e ∈ entries, (keyPath e.key).length = n) (hpath : path.length = n)
    (h : HasText path fields ∨ ∃ e ∈ entries, keyPath e.key = path) :
    HasText path (extend fields entries) := by
  induction entries generalizing fields with
  | nil => exact h.elim id (by simp)
  | cons e entries ih =>
      have hlength : path.length = (keyPath e.key).length :=
        hpath.trans (hentries e List.mem_cons_self).symm
      refine ih (fun e' he' => hentries e' (List.mem_cons_of_mem _ he')) ?_
      rcases h with h | ⟨e', he', hkey⟩
      · exact Or.inl (h.insertAt hlength)
      · rcases List.mem_cons.mp he' with rfl | he'
        · left
          rw [← hkey]
          exact hasText_insertAt (keyPath_ne_nil e'.key)
        · exact Or.inr ⟨e', he', hkey⟩

end Phrasebook.Catalog
