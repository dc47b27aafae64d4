import Phrasebook.Proofs.Catalog.Merged

/-!
What putting a text at a key does to a catalog.

The path of a key is the key cut at its points. After the text was put in it stands at the end of
the path. Every path that leads elsewhere leads to what it led to before, and an object on the way
gets at most one new key, behind the keys that it has.
-/

namespace Phrasebook

open Json (Fields Value)

/-- Of two values put at one key only the second is left. -/
theorem Json.Fields.set_set (key : String) (value second : Value) (fields : Fields) :
    (fields.set key value).set key second = fields.set key second := by
  induction fields with
  | nil => simp [Fields.set]
  | cons f fields ih =>
      obtain ⟨k, v⟩ := f
      by_cases hk : k = key
      · simp [Fields.set, hk]
      · simp [Fields.set, hk, ih]

namespace Catalog

theorem dot_not_mem_segments {cs s : List Char} (h : s ∈ segments cs) : '.' ∉ s := by
  induction cs generalizing s with
  | nil =>
      obtain rfl := List.mem_singleton.mp h
      exact List.not_mem_nil
  | cons c cs ih =>
      obtain ⟨first, rest, hcs⟩ := List.exists_cons_of_ne_nil (segments_ne_nil cs)
      rw [hcs] at ih
      rw [segments] at h
      by_cases hc : c = '.'
      · rw [if_pos hc, hcs] at h
        rcases List.mem_cons.mp h with rfl | h
        · exact List.not_mem_nil
        · exact ih h
      · rw [if_neg hc, hcs] at h
        rcases List.mem_cons.mp h with rfl | h
        · intro hdot
          rcases List.mem_cons.mp hdot with hdot | hdot
          · exact hc hdot.symm
          · exact ih List.mem_cons_self hdot
        · exact ih (List.mem_cons_of_mem first h)

theorem intercalate_segments (cs : List Char) : ['.'].intercalate (segments cs) = cs := by
  induction cs with
  | nil => rfl
  | cons c cs ih =>
      obtain ⟨first, rest, hcs⟩ := List.exists_cons_of_ne_nil (segments_ne_nil cs)
      rw [hcs] at ih
      rw [segments, hcs]
      by_cases hc : c = '.'
      · rw [if_pos hc, List.intercalate_cons_cons, ih, hc]
        rfl
      · rw [if_neg hc]
        cases rest with
        | nil => simpa using ih
        | cons second rest =>
            rw [List.intercalate_cons_cons] at ih ⊢
            simpa using ih

/-- A path is a key cut at its points: no segment holds a point, and with points between the
segments they are the key again. -/
structure Cut (key : String) (path : List String) : Prop where
  joined : ".".intercalate path = key
  undotted : ∀ segment ∈ path, '.' ∉ segment.toList

theorem cut_keyPath (key : String) : Cut key (keyPath key) where
  joined := by
    have hchars : (keyPath key).map String.toList = segments key.toList := by
      simp [keyPath, Function.comp_def]
    rw [← String.toList_inj, String.toList_intercalate, hchars]
    exact intercalate_segments key.toList
  undotted segment h := by
    obtain ⟨s, hs, rfl⟩ := List.mem_map.mp h
    rw [String.toList_ofList]
    exact dot_not_mem_segments hs

/-- The keys of an object after one of its fields was set: a new key comes behind the others. -/
def keysWith (key : String) (keys : List String) : List String :=
  if key ∈ keys then keys else keys ++ [key]

/-- What a catalog has once a text was put at a path. -/
structure Puts (path : List String) (text : String) (before after : Fields) : Prop where
  holds : valueAt path after = some (.string text)
  frame : ∀ other, ¬ other <+: path → ¬ path <+: other →
    valueAt other after = valueAt other before
  levels : ∀ front key rest, path = front ++ key :: rest →
    ∃ inner, fieldsAt front after = some inner ∧
      inner.keys = keysWith key (Fields.keys ((fieldsAt front before).getD []))

section

variable {text : String} {path : List String} {fields : Fields}

/-- Of the fields at hand only the one with the first key of the path is set. -/
theorem exists_insertAt_eq_set (text key : String) (rest : List String) (fields : Fields) :
    ∃ value, insertAt text (key :: rest) fields = fields.set key value := by
  cases rest with
  | nil => exact ⟨_, rfl⟩
  | cons next rest => exact ⟨_, rfl⟩

theorem keys_insertAt (key : String) (rest : List String) (fields : Fields) :
    (insertAt text (key :: rest) fields).keys = keysWith key fields.keys := by
  obtain ⟨value, hset⟩ := exists_insertAt_eq_set text key rest fields
  rw [hset]
  exact Fields.keys_set key value fields

theorem get?_insertAt_of_ne (text : String) {key other : String} (h : other ≠ key)
    (rest : List String) (fields : Fields) :
    (insertAt text (key :: rest) fields).get? other = fields.get? other := by
  obtain ⟨value, hset⟩ := exists_insertAt_eq_set text key rest fields
  rw [hset]
  exact Fields.get?_set_of_ne h value fields

/-- A path that parts from the one where a text was put leads to what it led to before. -/
theorem valueAt_insertAt_of_apart {other : List String} (hother : ¬ other <+: path)
    (hpath : ¬ path <+: other) :
    valueAt other (insertAt text path fields) = valueAt other fields := by
  induction path generalizing other fields with
  | nil => exact absurd List.nil_prefix hpath
  | cons key path ih =>
      obtain ⟨key', rest, rfl⟩ : ∃ key' rest, other = key' :: rest := by
        apply List.exists_cons_of_ne_nil
        rintro rfl
        exact hother List.nil_prefix
      rw [List.cons_prefix_cons, not_and] at hother hpath
      by_cases hkey : key' = key
      · subst hkey
        -- The paths part further down, so neither ends here.
        obtain ⟨next, path, rfl⟩ : ∃ next tail, path = next :: tail := by
          apply List.exists_cons_of_ne_nil
          rintro rfl
          exact hpath rfl List.nil_prefix
        obtain ⟨next', rest, rfl⟩ : ∃ next' tail, rest = next' :: tail := by
          apply List.exists_cons_of_ne_nil
          rintro rfl
          exact hother rfl List.nil_prefix
        rw [insertAt_cons, valueAt_cons, valueAt_cons, Fields.get?_set_self, innerFields]
        exact ih (hother rfl) (hpath rfl)
      · have hget := get?_insertAt_of_ne text hkey path fields
        cases rest with
        | nil => exact hget
        | cons next' rest => rw [valueAt_cons, valueAt_cons, hget]

/-- An object below a key is looked for among the fields at the key. -/
theorem getD_fieldsAt_cons (key : String) (front : List String) (fields : Fields) :
    (fieldsAt (key :: front) fields).getD [] =
      (fieldsAt front (innerFields (fields.get? key))).getD [] := by
  cases front with
  | nil =>
      have hvalue : valueAt [key] fields = fields.get? key := rfl
      rcases hget : fields.get? key with _ | v
      · simp [fieldsAt, hvalue, hget, innerFields]
      · cases v <;> simp [fieldsAt, hvalue, hget, innerFields]
  | cons next front => rfl

/-- On the way to its place a text is put into each object in turn. -/
theorem fieldsAt_insertAt (front : List String) (key : String) (rest : List String)
    (fields : Fields) :
    fieldsAt front (insertAt text (front ++ key :: rest) fields) =
      some (insertAt text (key :: rest) ((fieldsAt front fields).getD [])) := by
  induction front generalizing fields with
  | nil => rfl
  | cons first front ih =>
      obtain ⟨next, tail, htail⟩ : ∃ next tail, front ++ key :: rest = next :: tail :=
        List.exists_cons_of_ne_nil (by simp)
      rw [getD_fieldsAt_cons, ← ih, List.cons_append, htail, insertAt_cons]
      cases front with
      | nil => exact fieldsAt_cons_eq_some_iff.mpr (Fields.get?_set_self first _ fields)
      | cons second front =>
          rw [fieldsAt, valueAt_cons, Fields.get?_set_self, innerFields, fieldsAt]

theorem insertAt_insertAt (second : String) :
    insertAt second path (insertAt text path fields) = insertAt second path fields := by
  induction path generalizing fields with
  | nil => rfl
  | cons key path ih =>
      cases path with
      | nil => exact Fields.set_set key _ _ fields
      | cons next path =>
          rw [insertAt_cons, insertAt_cons, insertAt_cons, Fields.get?_set_self, innerFields, ih,
            Fields.set_set]

theorem puts_insertAt (hpath : path ≠ []) : Puts path text fields (insertAt text path fields) where
  holds := valueAt_insertAt hpath
  frame _ := valueAt_insertAt_of_apart
  levels := by
    rintro front key rest rfl
    exact ⟨_, fieldsAt_insertAt front key rest fields, keys_insertAt key rest _⟩

end

/-- A text that is put at a key stands at the end of the key's path, nothing beside the path
changes, and the objects on the way keep their keys in order. A second text put at the key leaves
nothing of the first. -/
theorem insert_lawful (key text : String) (fields : Fields) :
    Cut key (keyPath key) ∧ Puts (keyPath key) text fields (insert key text fields) ∧
      ∀ second, insert key second (insert key text fields) = insert key second fields :=
  ⟨cut_keyPath key, puts_insertAt (keyPath_ne_nil key), fun second => insertAt_insertAt second⟩

/-- An empty segment is a key like any other, and a text in the way gives place to an object. -/
example : insert "Card..title" "Title" [("Card", .string "Card"), ("Menu", .null)] =
    [("Card", .object [("", .object [("title", .string "Title")])]), ("Menu", .null)] := by
  rfl

end Catalog

end Phrasebook
