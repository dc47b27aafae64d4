import Phrasebook.Proofs.Json.Number

/-!
Values that can be written and read again.

A sound value has no key twice in an object, does not nest too deeply and holds numbers of a given
kind only. Reading a value again gives each number as its own text is read.
-/

namespace Phrasebook.Json

def Fields.keys (fields : Fields) : List String := fields.map Prod.fst

/-- Values that nest at most `depth` deep, in which every number is of the kind `ok` and no object
has a key twice. -/
inductive Sound (ok : Number → Prop) : (depth : Nat) → Value → Prop
  | null {depth : Nat} : Sound ok depth .null
  | bool {depth : Nat} (b : Bool) : Sound ok depth (.bool b)
  | number {depth : Nat} {n : Number} (h : ok n) : Sound ok depth (.number n)
  | string {depth : Nat} (s : String) : Sound ok depth (.string s)
  | array {depth : Nat} {items : List Value} (h : ∀ v ∈ items, Sound ok depth v) :
      Sound ok (depth + 1) (.array items)
  | object {depth : Nat} {fields : Fields} (hkeys : fields.keys.Nodup)
      (h : ∀ f ∈ fields, Sound ok depth f.2) : Sound ok (depth + 1) (.object fields)

theorem Sound.imp {ok ok' : Number → Prop} (himp : ∀ n, ok n → ok' n) {depth : Nat} {v : Value}
    (h : Sound ok depth v) : Sound ok' depth v := by
  induction h with
  | null => exact .null
  | bool b => exact .bool b
  | number h => exact .number (himp _ h)
  | string s => exact .string s
  | array _ ih => exact .array ih
  | object hkeys _ ih => exact .object hkeys ih

theorem Sound.mono {ok : Number → Prop} {depth depth' : Nat} {v : Value} (h : Sound ok depth v)
    (hle : depth ≤ depth') : Sound ok depth' v := by
  induction h generalizing depth' with
  | null => exact .null
  | bool b => exact .bool b
  | number h => exact .number h
  | string s => exact .string s
  | array _ ih =>
      cases depth' with
      | zero => omega
      | succ depth' => exact .array fun v hv => ih v hv (by omega)
  | object hkeys _ ih =>
      cases depth' with
      | zero => omega
      | succ depth' => exact .object hkeys fun f hf => ih f hf (by omega)

mutual

def Value.numbers : Value → List Number
  | .number n => [n]
  | .array items => numbersOfItems items
  | .object fields => numbersOfFields fields
  | _ => []

def numbersOfItems : List Value → List Number
  | [] => []
  | v :: vs => v.numbers ++ numbersOfItems vs

def numbersOfFields : List (String × Value) → List Number
  | [] => []
  | (_, v) :: fields => v.numbers ++ numbersOfFields fields

end

theorem mem_numbersOfItems {n : Number} {v : Value} {items : List Value} (hv : v ∈ items)
    (hn : n ∈ v.numbers) : n ∈ numbersOfItems items := by
  induction items with
  | nil => cases hv
  | cons u items ih =>
      rw [numbersOfItems, List.mem_append]
      rcases List.mem_cons.mp hv with rfl | hv
      · exact Or.inl hn
      · exact Or.inr (ih hv)

theorem mem_numbersOfFields {n : Number} {f : String × Value} {fields : Fields} (hf : f ∈ fields)
    (hn : n ∈ f.2.numbers) : n ∈ numbersOfFields fields := by
  induction fields with
  | nil => cases hf
  | cons g fields ih =>
      rw [numbersOfFields, List.mem_append]
      rcases List.mem_cons.mp hf with rfl | hf
      · exact Or.inl hn
      · exact Or.inr (ih hf)

/-- Nothing is asked of numbers that a value does not hold. -/
theorem Sound.numbers {ok : Number → Prop} {depth : Nat} {v : Value} (h : Sound ok depth v) :
    Sound (fun n => ok n ∧ n ∈ v.numbers) depth v := by
  induction h with
  | null => exact .null
  | bool b => exact .bool b
  | number h => exact .number ⟨h, by simp [Value.numbers]⟩
  | string s => exact .string s
  | array _ ih =>
      refine .array fun v hv => (ih v hv).imp fun n hn => ⟨hn.1, ?_⟩
      exact mem_numbersOfItems hv hn.2
  | object hkeys _ ih =>
      refine .object hkeys fun f hf => (ih f hf).imp fun n hn => ⟨hn.1, ?_⟩
      exact mem_numbersOfFields hf hn.2

/-- What the text of a number is read as; the number itself if it is not read as a number. -/
def Number.reread (n : Number) : Number :=
  match readSigned (printNumber n) with
  | .ok (m, []) => m
  | _ => n

def Number.Rereadable (n : Number) : Prop := n.ReadsAs n.reread

theorem Number.ReadsAs.reread_eq {n m : Number} (h : n.ReadsAs m) : n.reread = m := by
  simp only [Number.reread, show readSigned (printNumber n) = .ok (m, []) from h]

theorem Number.ReadsAs.rereadable {n m : Number} (h : n.ReadsAs m) : n.Rereadable := by
  rw [Number.Rereadable, h.reread_eq]
  exact h

mutual

/-- A value with each of its numbers as it is read again. -/
def Value.reread : Value → Value
  | .number n => .number n.reread
  | .array items => .array (rereadItems items)
  | .object fields => .object (rereadFields fields)
  | other => other

def rereadItems : List Value → List Value
  | [] => []
  | v :: vs => v.reread :: rereadItems vs

def rereadFields : List (String × Value) → List (String × Value)
  | [] => []
  | (key, v) :: fields => (key, v.reread) :: rereadFields fields

end

theorem rereadItems_eq_map (items : List Value) : rereadItems items = items.map Value.reread := by
  induction items with
  | nil => rfl
  | cons v vs ih => rw [rereadItems, ih, List.map_cons]

theorem rereadFields_eq_map (fields : Fields) :
    rereadFields fields = fields.map fun f => (f.1, f.2.reread) := by
  induction fields with
  | nil => rfl
  | cons f fields ih => rw [rereadFields, ih, List.map_cons]

theorem get?_rereadFields (key : String) (fields : Fields) :
    Fields.get? key (rereadFields fields) = (Fields.get? key fields).map Value.reread := by
  induction fields with
  | nil => rfl
  | cons f fields ih =>
      obtain ⟨k, v⟩ := f
      by_cases hk : k = key
      · simp [rereadFields, Fields.get?, hk]
      · simp [rereadFields, Fields.get?, hk, ih]

theorem Fields.get?_append (key : String) (fields more : Fields) :
    Fields.get? key (fields ++ more) = (fields.get? key).or (more.get? key) := by
  induction fields with
  | nil => rfl
  | cons f fields ih =>
      obtain ⟨k, v⟩ := f
      by_cases hk : k = key
      · simp [Fields.get?, hk]
      · simpa [Fields.get?, hk] using ih

theorem Fields.get?_eq_none_iff {key : String} {fields : Fields} :
    fields.get? key = none ↔ key ∉ fields.keys := by
  induction fields with
  | nil => simp [Fields.get?, Fields.keys]
  | cons f fields ih =>
      obtain ⟨k, v⟩ := f
      rw [Fields.keys, List.map_cons, List.mem_cons, not_or, Fields.get?]
      by_cases hk : k = key
      · simp [hk]
      · rw [if_neg hk, ih]
        simp [Fields.keys, Ne.symm hk]

theorem Fields.mem_of_get? {key : String} {value : Value} {fields : Fields}
    (h : fields.get? key = some value) : (key, value) ∈ fields := by
  induction fields with
  | nil => cases h
  | cons f fields ih =>
      obtain ⟨k, v⟩ := f
      rw [Fields.get?] at h
      split at h
      · rename_i hk
        obtain rfl := Option.some.inj h
        rw [hk]
        exact List.mem_cons_self
      · exact List.mem_cons_of_mem _ (ih h)

theorem Fields.set_of_not_mem {key : String} (value : Value) {fields : Fields}
    (h : key ∉ fields.keys) : fields.set key value = fields ++ [(key, value)] := by
  induction fields with
  | nil => rfl
  | cons f fields ih =>
      obtain ⟨k, v⟩ := f
      rw [Fields.keys, List.map_cons, List.mem_cons, not_or] at h
      rw [Fields.set, if_neg (Ne.symm h.1), ih h.2, List.cons_append]

theorem Fields.keys_set (key : String) (value : Value) (fields : Fields) :
    (fields.set key value).keys =
      if key ∈ fields.keys then fields.keys else fields.keys ++ [key] := by
  induction fields with
  | nil => rfl
  | cons f fields ih =>
      obtain ⟨k, v⟩ := f
      by_cases hk : k = key
      · simp [Fields.set, Fields.keys, hk]
      · simp only [Fields.keys] at ih
        by_cases hmem : key ∈ fields.map Prod.fst
        · simp [Fields.set, Fields.keys, hk, ih, hmem]
        · simp [Fields.set, Fields.keys, hk, Ne.symm hk, ih, hmem]

theorem Fields.nodup_keys_set {fields : Fields} (h : fields.keys.Nodup) (key : String)
    (value : Value) : (fields.set key value).keys.Nodup := by
  rw [keys_set]
  split
  · exact h
  · rename_i hmem
    refine List.nodup_append.mpr ⟨h, by simp, ?_⟩
    rintro a ha b hb rfl
    exact hmem (List.mem_singleton.mp hb ▸ ha)

theorem Fields.eq_or_mem_of_mem_set {key : String} {value : Value} {fields : Fields}
    {f : String × Value} (h : f ∈ fields.set key value) : f = (key, value) ∨ f ∈ fields := by
  induction fields with
  | nil => exact Or.inl (List.mem_singleton.mp h)
  | cons g fields ih =>
      obtain ⟨k, v⟩ := g
      rw [Fields.set] at h
      split at h
      · rename_i hk
        rcases List.mem_cons.mp h with rfl | hf
        · exact Or.inl (by rw [hk])
        · exact Or.inr (List.mem_cons_of_mem _ hf)
      · rcases List.mem_cons.mp h with rfl | hf
        · exact Or.inr List.mem_cons_self
        · exact (ih hf).imp id (List.mem_cons_of_mem _)

section

variable {ok : Number → Prop} {depth : Nat}

theorem Sound.fields {fields : Fields} (h : Sound ok (depth + 1) (.object fields)) :
    fields.keys.Nodup ∧ ∀ f ∈ fields, Sound ok depth f.2 := by
  cases h with
  | object hkeys hfields => exact ⟨hkeys, hfields⟩

theorem Sound.set {fields : Fields} (h : Sound ok (depth + 1) (.object fields)) (key : String)
    {value : Value} (hvalue : Sound ok depth value) :
    Sound ok (depth + 1) (.object (fields.set key value)) := by
  obtain ⟨hkeys, hfields⟩ := h.fields
  refine .object (Fields.nodup_keys_set hkeys key value) fun f hf => ?_
  rcases Fields.eq_or_mem_of_mem_set hf with rfl | hf
  · exact hvalue
  · exact hfields f hf

end

/-- Fields with keys of their own are put in one after the other. -/
theorem foldl_set (f : Value → Value) {fields more : Fields}
    (h : (Fields.keys (fields ++ more)).Nodup) :
    more.foldl (fun fs m => Fields.set m.1 (f m.2) fs) (fields.map fun m => (m.1, f m.2)) =
      (fields ++ more).map fun m => (m.1, f m.2) := by
  induction more generalizing fields with
  | nil => simp
  | cons m more ih =>
      have hkey : m.1 ∉ Fields.keys (fields.map fun m => (m.1, f m.2)) := by
        intro hmem
        rw [Fields.keys, List.map_append] at h
        refine (List.nodup_append.mp h).2.2 m.1 ?_ m.1 (by simp) rfl
        simpa [Fields.keys] using hmem
      rw [List.append_cons] at h ⊢
      rw [List.foldl_cons, Fields.set_of_not_mem _ hkey, ← ih h]
      simp

end Phrasebook.Json
