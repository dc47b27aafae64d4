import Phrasebook.Proofs.Catalog.Merge

/-!
What a merged catalog has at each path.

Where both catalogs have a value the two are merged, and else it is the value of the one that has
it. The only exception is a value of the existing catalog that is no object: nothing of the new
catalog gets past it.
-/

namespace Phrasebook

def Json.Value.isObject : Value → Bool
  | .object _ => true
  | _ => false

namespace Catalog

open Json (Fields Value Sound)

/-- No object of a catalog has a key twice, at whatever depth. -/
def UniqueKeys (fields : Fields) : Prop := ∃ depth, Sound (fun _ => True) depth (.object fields)

/-- A value that is no object ends the way along a path before the path ends. -/
def Blocked (path : List String) (fields : Fields) : Prop :=
  ∃ front rest v, path = front ++ rest ∧ rest ≠ [] ∧ valueAt front fields = some v ∧
    v.isObject = false

/-- The object at the end of a path. The empty path leads to the catalog itself. -/
def fieldsAt : List String → Fields → Option Fields
  | [], fields => some fields
  | key :: path, fields =>
      match valueAt (key :: path) fields with
      | some (.object inner) => some inner
      | _ => none

/-- What is at each path of a catalog that two others were merged into. -/
structure Merges (existing fresh merged : Fields) : Prop where
  keeps : ∀ path v, valueAt path existing = some v → v.isObject = false →
    valueAt path merged = some v
  object : ∀ path inner, valueAt path existing = some (.object inner) →
    ∃ inner', valueAt path merged = some (.object inner')
  blocks : ∀ path, Blocked path existing → valueAt path merged = none
  adds : ∀ path, valueAt path existing = none → ¬ Blocked path existing →
    valueAt path merged = valueAt path fresh
  keys : ∀ path old new, fieldsAt path existing = some old → fieldsAt path fresh = some new →
    ∃ inner, fieldsAt path merged = some inner ∧
      inner.keys = old.keys ++ new.keys.filter (· ∉ old.keys) ∧ inner.keys.Nodup

section

variable {path : List String} {fields inner : Fields} {key : String} {v : Value}

theorem mergeValue_of_leaf (h : v.isObject = false) (value : Value) : mergeValue v value = v := by
  cases value with
  | object fresh =>
      cases v with
      | object fields => cases h
      | _ => simp only [mergeValue]
  | _ => simp only [mergeValue]

theorem mergeValue_leaf (old : Value) (h : v.isObject = false) : mergeValue old v = old := by
  cases v with
  | object fresh => cases h
  | _ => simp only [mergeValue]

theorem innerFields_of_leaf (h : v.isObject = false) : innerFields (some v) = [] := by
  cases v with
  | object fields => cases h
  | _ => rfl

theorem get?_cases (fields : Fields) (key : String) :
    fields.get? key = none ∨ (∃ inner, fields.get? key = some (.object inner)) ∨
      ∃ v, fields.get? key = some v ∧ v.isObject = false := by
  rcases fields.get? key with _ | v
  · exact Or.inl rfl
  · right
    cases v with
    | object inner => exact Or.inl ⟨inner, rfl⟩
    | _ => exact Or.inr ⟨_, rfl, rfl⟩

/-- A path can be followed in two parts. -/
theorem valueAt_append {front rest : List String} (hfront : front ≠ []) (hrest : rest ≠ [])
    (fields : Fields) :
    valueAt (front ++ rest) fields = valueAt rest (innerFields (valueAt front fields)) := by
  obtain ⟨next, rest, rfl⟩ := List.exists_cons_of_ne_nil hrest
  induction front generalizing fields with
  | nil => exact absurd rfl hfront
  | cons key front ih =>
      cases front with
      | nil => rfl
      | cons second front => exact ih (List.cons_ne_nil second front) _

/-- What is blocked leads to nothing. -/
theorem Blocked.valueAt_eq_none (h : Blocked path fields) : valueAt path fields = none := by
  obtain ⟨front, rest, v, rfl, hrest, hvalue, hv⟩ := h
  have hfront : front ≠ [] := by
    rintro rfl
    cases hvalue
  rw [valueAt_append hfront hrest, hvalue, innerFields_of_leaf hv, valueAt_nil]

theorem not_blocked_of_valueAt (h : valueAt path fields = some v) : ¬ Blocked path fields := by
  intro hblocked
  rw [hblocked.valueAt_eq_none] at h
  cases h

theorem blocked_of_leaf {next : String} (hvalue : fields.get? key = some v)
    (hv : v.isObject = false) : Blocked (key :: next :: path) fields :=
  ⟨[key], next :: path, v, rfl, List.cons_ne_nil _ _, hvalue, hv⟩

theorem Blocked.cons (hvalue : fields.get? key = some (.object inner)) (h : Blocked path inner) :
    Blocked (key :: path) fields := by
  obtain ⟨front, rest, v, rfl, hrest, hleaf, hv⟩ := h
  refine ⟨key :: front, rest, v, rfl, hrest, ?_, hv⟩
  cases front with
  | nil => cases hleaf
  | cons next front => rw [valueAt_cons, hvalue, innerFields, hleaf]

theorem fieldsAt_cons_eq_some_iff :
    fieldsAt (key :: path) fields = some inner ↔
      valueAt (key :: path) fields = some (.object inner) := by
  rw [fieldsAt]
  rcases valueAt (key :: path) fields with _ | v
  · simp
  · cases v <;> simp

theorem uniqueKeys_nil : UniqueKeys [] := ⟨1, .object .nil (by simp)⟩

theorem UniqueKeys.nodup (h : UniqueKeys fields) : fields.keys.Nodup := by
  obtain ⟨depth, hsound⟩ := h
  cases hsound with
  | object hkeys hfields => exact hkeys

theorem UniqueKeys.of_get? (h : UniqueKeys fields)
    (hvalue : fields.get? key = some (.object inner)) : UniqueKeys inner := by
  obtain ⟨depth, hsound⟩ := h
  cases hsound with
  | object hkeys hfields => exact ⟨_, hfields _ (Fields.mem_of_get? hvalue)⟩

theorem UniqueKeys.below (h : UniqueKeys fields) (key : String) :
    UniqueKeys (innerFields (fields.get? key)) := by
  rcases get?_cases fields key with hnone | ⟨inner, hobject⟩ | ⟨v, hleaf, hv⟩
  · rw [hnone]
    exact uniqueKeys_nil
  · rw [hobject]
    exact h.of_get? hobject
  · rw [hleaf, innerFields_of_leaf hv]
    exact uniqueKeys_nil

theorem UniqueKeys.of_fieldsAt (h : UniqueKeys fields)
    (hinner : fieldsAt path fields = some inner) : UniqueKeys inner := by
  cases path with
  | nil =>
      obtain rfl := Option.some.inj hinner
      exact h
  | cons key path =>
      rw [fieldsAt_cons_eq_some_iff] at hinner
      induction path generalizing fields key with
      | nil => exact h.of_get? hinner
      | cons next path ih => exact ih (h.below key) next hinner

end

section

variable {existing fresh inner : Fields} {path : List String} {key : String} {v : Value}

theorem get?_merge_eq (hfresh : fresh.keys.Nodup) (key : String) (existing : Fields) :
    (merge existing fresh).get? key =
      (existing.get? key).merge mergeValue (fresh.get? key) := by
  rw [get?_merge hfresh]
  cases existing.get? key <;> cases fresh.get? key <;> rfl

/-- An object goes on as the merge of two objects, of which the second is empty if there is none. -/
theorem innerFields_get?_merge (hfresh : fresh.keys.Nodup)
    (hvalue : existing.get? key = some (.object inner)) :
    innerFields ((merge existing fresh).get? key) = merge inner (innerFields (fresh.get? key)) := by
  rw [get?_merge_eq hfresh, hvalue]
  rcases get?_cases fresh key with hnone | ⟨inner', hobject⟩ | ⟨v, hleaf, hv⟩
  · rw [hnone]
    simp [innerFields, merge]
  · rw [hobject]
    simp only [Option.merge_some_some, mergeValue, innerFields]
  · rw [hleaf, innerFields_of_leaf hv, Option.merge_some_some, mergeValue_leaf _ hv]
    simp [innerFields, merge]

theorem valueAt_merge (hfresh : UniqueKeys fresh) (h : ¬ Blocked path existing) :
    valueAt path (merge existing fresh) =
      (valueAt path existing).merge mergeValue (valueAt path fresh) := by
  induction path generalizing existing fresh with
  | nil => rfl
  | cons key path ih =>
      have hget := get?_merge_eq hfresh.nodup key existing
      cases path with
      | nil => exact hget
      | cons next path =>
          rw [valueAt_cons, valueAt_cons, valueAt_cons]
          rcases get?_cases existing key with hnone | ⟨inner, hobject⟩ | ⟨v, hleaf, hv⟩
          · rw [hget, hnone, Option.merge_none_left]
            simp [innerFields, valueAt_nil]
          · rw [innerFields_get?_merge hfresh.nodup hobject, hobject]
            exact ih (hfresh.below key) fun hblocked => h (hblocked.cons hobject)
          · exact absurd (blocked_of_leaf hleaf hv) h

theorem valueAt_merge_of_some (hfresh : UniqueKeys fresh) (h : valueAt path existing = some v) :
    valueAt path (merge existing fresh) = (some v).merge mergeValue (valueAt path fresh) := by
  rw [valueAt_merge hfresh (not_blocked_of_valueAt h), h]

/-- What a catalog says stays, unless it is an object. -/
theorem valueAt_merge_of_leaf (hfresh : UniqueKeys fresh) (h : valueAt path existing = some v)
    (hv : v.isObject = false) : valueAt path (merge existing fresh) = some v := by
  rw [valueAt_merge_of_some hfresh h]
  cases valueAt path fresh with
  | none => rfl
  | some value => rw [Option.merge_some_some, mergeValue_of_leaf hv]

/-- An object stays what it is, unless there is an object to be merged into it. -/
theorem valueAt_merge_of_not_object (hfresh : UniqueKeys fresh)
    (h : valueAt path existing = some v)
    (hvalue : ∀ new, valueAt path fresh ≠ some (.object new)) :
    valueAt path (merge existing fresh) = some v := by
  rw [valueAt_merge_of_some hfresh h]
  cases hnew : valueAt path fresh with
  | none => rfl
  | some value =>
      have hleaf : value.isObject = false := by
        cases value with
        | object new => exact absurd hnew (hvalue new)
        | _ => rfl
      rw [Option.merge_some_some, mergeValue_leaf v hleaf]

theorem valueAt_merge_of_none (hfresh : UniqueKeys fresh) (h : valueAt path existing = none)
    (hfree : ¬ Blocked path existing) :
    valueAt path (merge existing fresh) = valueAt path fresh := by
  rw [valueAt_merge hfresh hfree, h, Option.merge_none_left]

theorem Blocked.merge (hfresh : UniqueKeys fresh) (h : Blocked path existing) :
    Blocked path (merge existing fresh) := by
  obtain ⟨front, rest, v, hpath, hrest, hvalue, hv⟩ := h
  exact ⟨front, rest, v, hpath, hrest, valueAt_merge_of_leaf hfresh hvalue hv, hv⟩

theorem keys_merge (hfresh : fresh.keys.Nodup) (existing : Fields) :
    (merge existing fresh).keys =
      existing.keys ++ fresh.keys.filter (· ∉ existing.keys) := by
  induction fresh generalizing existing with
  | nil => simp [merge, Fields.keys]
  | cons f fresh ih =>
      obtain ⟨key, value⟩ := f
      obtain ⟨hkey, hrest⟩ := List.nodup_cons.mp hfresh
      have hcons : Fields.keys ((key, value) :: fresh) = key :: Fields.keys fresh := rfl
      rw [hcons, merge]
      cases hold : existing.get? key with
      | none =>
          have hnew : key ∉ existing.keys := Fields.get?_eq_none_iff.mp hold
          have happend : Fields.keys (existing ++ [(key, value)]) = existing.keys ++ [key] := by
            simp [Fields.keys]
          -- No later key is the one that was just added.
          have hfilter : (Fields.keys fresh).filter (· ∉ existing.keys ++ [key]) =
              (Fields.keys fresh).filter (· ∉ existing.keys) := by
            apply List.filter_congr
            intro other hother
            have hne : other ≠ key := fun heq => hkey (heq ▸ hother)
            simp [hne]
          rw [ih hrest, happend, hfilter, List.filter_cons_of_pos (by simpa using hnew)]
          simp
      | some old =>
          have hthere : key ∈ existing.keys := by
            apply Decidable.byContradiction
            intro hnew
            rw [Fields.get?_eq_none_iff.mpr hnew] at hold
            cases hold
          rw [ih hrest, Fields.keys_set, if_pos hthere,
            List.filter_cons_of_neg (by simpa using hthere)]

theorem nodup_keys_merge (hexisting : existing.keys.Nodup) (hfresh : fresh.keys.Nodup) :
    (merge existing fresh).keys.Nodup := by
  rw [keys_merge hfresh]
  apply List.nodup_append.mpr
  refine ⟨hexisting, hfresh.filter _, ?_⟩
  rintro a ha b hb rfl
  simp only [List.mem_filter, decide_eq_true_eq] at hb
  exact hb.2 ha

theorem fieldsAt_merge {old new : Fields} (hfresh : UniqueKeys fresh)
    (hold : fieldsAt path existing = some old) (hnew : fieldsAt path fresh = some new) :
    fieldsAt path (merge existing fresh) = some (merge old new) := by
  cases path with
  | nil =>
      obtain rfl := Option.some.inj hold
      obtain rfl := Option.some.inj hnew
      rfl
  | cons key path =>
      rw [fieldsAt_cons_eq_some_iff] at hold hnew ⊢
      rw [valueAt_merge_of_some hfresh hold, hnew, Option.merge_some_some]
      simp only [mergeValue]

/-- Merging keeps all that a catalog says, adds what it does not say where nothing blocks the way,
and puts new keys behind the old ones. -/
theorem merges_merge (hexisting : UniqueKeys existing) (hfresh : UniqueKeys fresh) :
    Merges existing fresh (merge existing fresh) where
  keeps _ _ := valueAt_merge_of_leaf hfresh
  object path inner h := by
    rw [valueAt_merge_of_some hfresh h]
    rcases valueAt path fresh with _ | value
    · exact ⟨inner, rfl⟩
    · cases value with
      | object new => exact ⟨merge inner new, by simp only [Option.merge_some_some, mergeValue]⟩
      | _ => exact ⟨inner, by simp only [Option.merge_some_some, mergeValue]⟩
  blocks _ h := (h.merge hfresh).valueAt_eq_none
  adds _ := valueAt_merge_of_none hfresh
  keys path old new hold hnew := by
    have hnodup := (hfresh.of_fieldsAt hnew).nodup
    exact ⟨merge old new, fieldsAt_merge hfresh hold hnew, keys_merge hnodup old,
      nodup_keys_merge (hexisting.of_fieldsAt hold).nodup hnodup⟩

end

/-- A catalog in which a text stands where a new one has an object, and the other way round. -/
def basket : Fields :=
  [("Menu", .string "Speisen"),
    ("Cart", .object [("items", .object [("one", .string "Eins")]), ("note", .array [.null])])]

def newBasket : Fields :=
  [("Cart", .object [("note", .object [("top", .string "Top")]), ("empty", .string "No items"),
      ("items", .string "Items")]),
    ("Menu", .object [("open", .string "Open")]), ("Help", .object [])]

theorem uniqueKeys_basket : UniqueKeys basket ∧ UniqueKeys newBasket := by
  refine ⟨⟨3, .object (by decide) ?_⟩, ⟨3, .object (by decide) ?_⟩⟩
  · simp only [basket, List.forall_mem_cons, List.not_mem_nil, false_imp_iff, implies_true, and_true]
    refine ⟨.string _, .object (by decide) ?_⟩
    simp only [List.forall_mem_cons, List.not_mem_nil, false_imp_iff, implies_true, and_true]
    exact ⟨.object (by decide) (by simpa using .string _), .array (by simpa using .null)⟩
  · simp only [newBasket, List.forall_mem_cons, List.not_mem_nil, false_imp_iff, implies_true,
      and_true]
    refine ⟨.object (by decide) ?_, .object (by decide) (by simpa using .string _),
      .object .nil (by simp)⟩
    simp only [List.forall_mem_cons, List.not_mem_nil, false_imp_iff, implies_true, and_true]
    exact ⟨.object (by decide) (by simpa using .string _), .string _, .string _⟩

theorem not_blocked_basket : ¬ Blocked ["Cart", "empty"] basket := by
  rintro ⟨front, rest, v, hpath, hrest, hvalue, hv⟩
  rcases front with _ | ⟨first, _ | ⟨second, front⟩⟩
  · cases hvalue
  · obtain ⟨rfl, -⟩ := List.cons.inj hpath
    obtain rfl := Option.some.inj hvalue
    cases hv
  · simp only [List.cons_append, List.cons.injEq, List.nil_eq, List.append_eq_nil_iff] at hpath
    exact hrest hpath.2.2.2

theorem basket_merged :
    UniqueKeys basket ∧ UniqueKeys newBasket ∧
      valueAt ["Menu"] (merge basket newBasket) = some (.string "Speisen") ∧
      valueAt ["Menu", "open"] (merge basket newBasket) = none ∧
      valueAt ["Cart", "note", "top"] (merge basket newBasket) = none ∧
      valueAt ["Cart", "empty"] (merge basket newBasket) = some (.string "No items") ∧
      ∃ inner, fieldsAt ["Cart"] (merge basket newBasket) = some inner ∧
        inner.keys = ["items", "note", "empty"] := by
  obtain ⟨hbasket, hnew⟩ := uniqueKeys_basket
  have hmerges := merges_merge hbasket hnew
  obtain ⟨inner, hinner, hkeys, -⟩ := hmerges.keys ["Cart"] _ _ rfl rfl
  refine ⟨hbasket, hnew, hmerges.keeps _ _ rfl rfl, hmerges.blocks _ ?_, hmerges.blocks _ ?_,
    hmerges.adds _ rfl not_blocked_basket, inner, hinner, hkeys⟩
  · exact ⟨["Menu"], ["open"], _, rfl, by simp, rfl, rfl⟩
  · exact ⟨["Cart", "note"], ["top"], _, rfl, by simp, rfl, rfl⟩

end Catalog

end Phrasebook
