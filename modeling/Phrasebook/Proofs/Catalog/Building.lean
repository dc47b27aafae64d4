import Phrasebook.Proofs.Catalog.Merge

/-!
The catalog that a list of entries gives.

An entry whose component and slug hold no point ends up two levels deep. Of entries that share a
component and a slug the last one wins, but the place in the catalog is that of the first one.
-/

namespace Phrasebook.Catalog

open Json (Fields Value)

theorem eraseDups_concat {α : Type} [BEq α] [LawfulBEq α] (xs : List α) (x : α) :
    (xs ++ [x]).eraseDups = if x ∈ xs then xs.eraseDups else xs.eraseDups ++ [x] := by
  rw [List.eraseDups_append, List.removeAll]
  by_cases hx : x ∈ xs
  · simp [hx]
  · simp [hx, List.eraseDups_cons]

/-- What a catalog has under two keys: component and slug. -/
def Entry.address (e : Entry) : String × String := (e.component, e.slug)

def slugsOf (entries : List Entry) (component : String) : List String :=
  (entries.filter fun e => e.component == component).map (·.slug)

/-- The text of the last entry with the given component and slug. -/
def lastText? (entries : List Entry) (address : String × String) : Option String :=
  (entries.reverse.find? fun e => e.address == address).map (·.text)

theorem slugsOf_concat (entries : List Entry) (e : Entry) (component : String) :
    slugsOf (entries ++ [e]) component =
      slugsOf entries component ++ if e.component = component then [e.slug] else [] := by
  by_cases h : e.component = component
  · simp [slugsOf, h]
  · simp [slugsOf, h]

theorem lastText?_concat (entries : List Entry) (e : Entry) (address : String × String) :
    lastText? (entries ++ [e]) address =
      if e.address = address then some e.text else lastText? entries address := by
  by_cases h : e.address = address
  · simp [lastText?, h]
  · have hne : (e.address == address) = false := beq_eq_false_iff_ne.mpr h
    simp [lastText?, hne, h]

theorem lastText?_eq_none_iff {entries : List Entry} {address : String × String} :
    lastText? entries address = none ↔ address ∉ entries.map Entry.address := by
  simp [lastText?]

/-- Where entries that share their place also share their text, the last text is that of each. -/
theorem lastText?_of_mem {entries : List Entry} {e : Entry} (he : e ∈ entries)
    (hsame : ∀ e' ∈ entries, e'.address = e.address → e'.text = e.text) :
    lastText? entries e.address = some e.text := by
  cases htext : lastText? entries e.address with
  | none => exact absurd (List.mem_map_of_mem he) (lastText?_eq_none_iff.mp htext)
  | some text =>
      obtain ⟨last, hlast, rfl⟩ := Option.map_eq_some_iff.mp htext
      have hmem : last ∈ entries := List.mem_reverse.mp (List.mem_of_find?_eq_some hlast)
      have haddress : last.address = e.address := by simpa using List.find?_some hlast
      rw [hsame last hmem haddress]

/-- The leaves of the value that is replaced are lost, those of the new one are gained. -/
theorem keyCount_set (key : String) (value : Value) (fields : Fields) :
    keyCount (fields.set key value) + ((fields.get? key).map leaves).getD 0 =
      keyCount fields + leaves value := by
  induction fields with
  | nil => simp [Fields.set, Fields.get?, keyCount]
  | cons f fields ih =>
      obtain ⟨k, v⟩ := f
      by_cases hk : k = key
      · simp [Fields.set, Fields.get?, keyCount, hk]
        omega
      · simp [Fields.set, Fields.get?, keyCount, hk]
        omega

/-- A catalog with the texts of some entries, and nothing else. -/
structure Built (entries : List Entry) (fields : Fields) : Prop where
  components : fields.keys = (entries.map (·.component)).eraseDups
  objects : ∀ component ∈ fields.keys, ∃ inner, fields.get? component = some (.object inner)
  slugs : ∀ component, (innerFields (fields.get? component)).keys =
    (slugsOf entries component).eraseDups
  texts : ∀ component slug, valueAt [component, slug] fields =
    (lastText? entries (component, slug)).map .string
  count : keyCount fields = (entries.map Entry.address).eraseDups.length

theorem built_nil : Built [] [] where
  components := rfl
  objects := by
    intro component hmem
    cases hmem
  slugs _ := rfl
  texts _ _ := rfl
  count := rfl

theorem insert_key {e : Entry} (hcomponent : '.' ∉ e.component.toList)
    (hslug : '.' ∉ e.slug.toList) (fields : Fields) :
    insert e.key e.text fields = fields.set e.component
      (.object ((innerFields (fields.get? e.component)).set e.slug (.string e.text))) := by
  rw [insert, keyPath_key hcomponent hslug]
  rfl

namespace Built

variable {entries : List Entry} {fields : Fields}

theorem leaves_get? (h : Built entries fields) (component : String) :
    ((fields.get? component).map leaves).getD 0 =
      keyCount (innerFields (fields.get? component)) := by
  cases hget : fields.get? component with
  | none => rfl
  | some value =>
      have hmem : component ∈ fields.keys := List.mem_map_of_mem (Fields.mem_of_get? hget)
      obtain ⟨inner, hinner⟩ := h.objects component hmem
      rw [hget] at hinner
      obtain rfl := Option.some.inj hinner
      rw [Option.map_some, Option.getD_some, leaves, innerFields]

theorem keyCount_insert (h : Built entries fields) {e : Entry}
    (hcomponent : '.' ∉ e.component.toList) (hslug : '.' ∉ e.slug.toList) :
    keyCount (insert e.key e.text fields) =
      keyCount fields + if e.address ∈ entries.map Entry.address then 0 else 1 := by
  have houter := keyCount_set e.component
    (.object ((innerFields (fields.get? e.component)).set e.slug (.string e.text))) fields
  have hinner := keyCount_set e.slug (.string e.text) (innerFields (fields.get? e.component))
  -- What stands at the place of the entry counts for one, if there is anything.
  have hold : (((innerFields (fields.get? e.component)).get? e.slug).map leaves).getD 0 =
      if e.address ∈ entries.map Entry.address then 1 else 0 := by
    have htext := h.texts e.component e.slug
    rw [valueAt_cons, valueAt] at htext
    rw [htext, ← Entry.address]
    cases hlast : lastText? entries e.address with
    | none =>
        rw [if_neg (lastText?_eq_none_iff.mp hlast)]
        rfl
    | some text =>
        have hmem : e.address ∈ entries.map Entry.address := by
          apply Decidable.byContradiction
          intro hnew
          rw [lastText?_eq_none_iff.mpr hnew] at hlast
          cases hlast
        rw [if_pos hmem]
        rfl
  rw [h.leaves_get?, leaves] at houter
  rw [hold, show leaves (.string e.text) = 1 from rfl] at hinner
  rw [insert_key hcomponent hslug]
  split at hinner
  · rename_i hthere
    rw [if_pos hthere]
    omega
  · rename_i hnew
    rw [if_neg hnew]
    omega

theorem insert (h : Built entries fields) {e : Entry} (hcomponent : '.' ∉ e.component.toList)
    (hslug : '.' ∉ e.slug.toList) :
    Built (entries ++ [e]) (Catalog.insert e.key e.text fields) := by
  have hcount := h.keyCount_insert hcomponent hslug
  rw [insert_key hcomponent hslug] at hcount ⊢
  refine ⟨?_, ?_, ?_, ?_, ?_⟩
  · rw [Fields.keys_set, h.components, List.map_append, List.map_singleton, eraseDups_concat]
    simp only [List.mem_eraseDups]
  · intro component hmem
    by_cases hc : component = e.component
    · rw [hc, Fields.get?_set_self]
      exact ⟨_, rfl⟩
    · rw [Fields.get?_set_of_ne hc]
      apply h.objects
      rw [Fields.keys_set] at hmem
      split at hmem
      · exact hmem
      · simpa [hc] using hmem
  · intro component
    rw [slugsOf_concat]
    by_cases hc : e.component = component
    · subst hc
      rw [Fields.get?_set_self, innerFields, Fields.keys_set, h.slugs, if_pos rfl,
        eraseDups_concat]
      simp only [List.mem_eraseDups]
    · rw [Fields.get?_set_of_ne (Ne.symm hc), h.slugs, if_neg hc, List.append_nil]
  · intro component slug
    have htexts := h.texts component slug
    rw [valueAt_cons, valueAt] at htexts ⊢
    rw [lastText?_concat]
    by_cases hc : e.component = component
    · subst hc
      rw [Fields.get?_set_self, innerFields]
      by_cases hs : e.slug = slug
      · rw [← hs, Fields.get?_set_self, if_pos (by rfl), Option.map_some]
      · have hne : e.address ≠ (e.component, slug) := fun heq => hs (congrArg Prod.snd heq)
        rw [Fields.get?_set_of_ne (Ne.symm hs), if_neg hne, htexts]
    · have hne : e.address ≠ (component, slug) := fun heq => hc (congrArg Prod.fst heq)
      rw [Fields.get?_set_of_ne (Ne.symm hc), if_neg hne, htexts]
  · rw [hcount, h.count, List.map_append, List.map_singleton, eraseDups_concat]
    split
    · rfl
    · rw [List.length_append, List.length_singleton]

end Built

theorem built_extend {entries : List Entry}
    (h : ∀ e ∈ entries, '.' ∉ e.component.toList ∧ '.' ∉ e.slug.toList) :
    Built entries (extend [] entries) := by
  -- The induction goes along the entries that are taken, not along those that are left.
  suffices hgeneral : ∀ taken fields, Built taken fields →
      Built (taken ++ entries) (extend fields entries) from hgeneral [] [] built_nil
  induction entries with
  | nil =>
      intro taken fields hbuilt
      rw [List.append_nil]
      exact hbuilt
  | cons e entries ih =>
      intro taken fields hbuilt
      obtain ⟨hcomponent, hslug⟩ := h e List.mem_cons_self
      rw [List.append_cons]
      apply ih
      · intro e' he'
        exact h e' (List.mem_cons_of_mem _ he')
      · exact hbuilt.insert hcomponent hslug

/-- The catalog of a list of entries has their components and slugs in the order in which they first
occur, each pair with its last text, and no more. If entries with the same pair have the same text,
each finds its own text. -/
theorem extend_nil_built {entries : List Entry}
    (h : ∀ e ∈ entries, '.' ∉ e.component.toList ∧ '.' ∉ e.slug.toList) :
    Built entries (extend [] entries) ∧
      ((extend [] entries).isEmpty = true ↔ entries = []) ∧
      ((∀ e ∈ entries, ∀ e' ∈ entries, e'.address = e.address → e'.text = e.text) →
        ∀ e ∈ entries, valueAt (keyPath e.key) (extend [] entries) = some (.string e.text)) := by
  have hbuilt := built_extend h
  refine ⟨hbuilt, ?_, ?_⟩
  · rw [List.isEmpty_iff, extend_eq_nil_iff]
  · intro hsame e he
    obtain ⟨hcomponent, hslug⟩ := h e he
    rw [keyPath_key hcomponent hslug, hbuilt.texts, ← Entry.address,
      lastText?_of_mem he (hsame e he)]
    rfl

/-- Entries of two components by turns, one of them without a name. The last one takes the place of
the first. -/
def navEntries : List Entry :=
  [⟨"Nav", "home", "Home"⟩, ⟨"", "home", "Start"⟩, ⟨"Nav", "about_us", "About us"⟩,
    ⟨"Nav", "home", "home"⟩]

theorem nav_built :
    (∀ e ∈ navEntries, '.' ∉ e.component.toList ∧ '.' ∉ e.slug.toList) ∧
      Fields.keys (extend [] navEntries) = ["Nav", ""] ∧
      (innerFields (Fields.get? "Nav" (extend [] navEntries))).keys = ["home", "about_us"] ∧
      valueAt ["Nav", "home"] (extend [] navEntries) = some (.string "home") ∧
      keyCount (extend [] navEntries) = 3 ∧
      ∀ e ∈ navEntries.tail,
        valueAt (keyPath e.key) (extend [] navEntries.tail) = some (.string e.text) := by
  have hpoints : ∀ e ∈ navEntries, '.' ∉ e.component.toList ∧ '.' ∉ e.slug.toList := by decide
  obtain ⟨hbuilt, -, -⟩ := extend_nil_built hpoints
  have hpoints' : ∀ e ∈ navEntries.tail, '.' ∉ e.component.toList ∧ '.' ∉ e.slug.toList :=
    fun e he => hpoints e (List.mem_of_mem_tail he)
  obtain ⟨-, -, hown⟩ := extend_nil_built hpoints'
  refine ⟨hpoints, hbuilt.components, hbuilt.slugs "Nav", hbuilt.texts "Nav" "home", ?_,
    hown (by decide)⟩
  rw [hbuilt.count]
  decide

end Phrasebook.Catalog
