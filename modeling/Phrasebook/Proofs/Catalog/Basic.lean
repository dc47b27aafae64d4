import Phrasebook.Catalog.Basic

/-!
What a catalog holds after texts were put in.
-/

namespace Phrasebook.Catalog

open Json (Fields Value)

theorem segments_ne_nil (cs : List Char) : segments cs ≠ [] := by
  cases cs with
  | nil => simp [segments]
  | cons c cs =>
      rw [segments]
      split
      · simp
      · split <;> simp

theorem keyPath_ne_nil (key : String) : keyPath key ≠ [] := by
  simpa [keyPath] using segments_ne_nil key.toList

theorem segments_of_not_mem {cs : List Char} (h : '.' ∉ cs) : segments cs = [cs] := by
  induction cs with
  | nil => rfl
  | cons c cs ih =>
      rw [List.mem_cons, not_or] at h
      rw [segments, if_neg (Ne.symm h.1), ih h.2]

theorem segments_append {cs : List Char} (h : '.' ∉ cs) (rest : List Char) :
    segments (cs ++ '.' :: rest) = cs :: segments rest := by
  induction cs with
  | nil => simp [segments]
  | cons c cs ih =>
      rw [List.mem_cons, not_or] at h
      rw [List.cons_append, segments, if_neg (Ne.symm h.1), ih h.2]

theorem keyPath_key {e : Entry} (hcomponent : '.' ∉ e.component.toList)
    (hslug : '.' ∉ e.slug.toList) : keyPath e.key = [e.component, e.slug] := by
  have hkey : e.key.toList = e.component.toList ++ '.' :: e.slug.toList := by
    simp [Entry.key, String.toList_append]
  rw [keyPath, hkey, segments_append hcomponent, segments_of_not_mem hslug]
  simp

theorem set_ne_nil (key : String) (value : Value) (fields : Fields) :
    fields.set key value ≠ [] := by
  cases fields with
  | nil => simp [Fields.set]
  | cons f fields =>
      rw [Fields.set]
      split <;> simp

theorem insert_ne_nil (key text : String) (fields : Fields) : insert key text fields ≠ [] := by
  obtain ⟨first, rest, hpath⟩ := List.exists_cons_of_ne_nil (keyPath_ne_nil key)
  rw [insert, hpath]
  cases rest with
  | nil => exact set_ne_nil first _ fields
  | cons second rest => exact set_ne_nil first _ fields

theorem extend_append (fields : Fields) (entries more : List Entry) :
    extend fields (entries ++ more) = extend (extend fields entries) more :=
  List.foldl_append

/-- A catalog is empty only as long as nothing was put in. -/
theorem extend_eq_nil_iff (entries : List Entry) : extend [] entries = [] ↔ entries = [] := by
  constructor
  · intro h
    rcases List.eq_nil_or_concat entries with rfl | ⟨front, last, rfl⟩
    · rfl
    · rw [List.concat_eq_append, extend_append] at h
      exact absurd h (insert_ne_nil last.key last.text _)
  · rintro rfl
    rfl

end Phrasebook.Catalog
