/-!
JSON values. The fields of an object keep the order in which they were put in.
-/

namespace Phrasebook.Json

/-- A number: an integer of 64 bits, or a double by its bits. -/
inductive Number where
  | integer (n : Int)
  | float (bits : UInt64)
deriving DecidableEq, Repr

/-- The sign bit of 64 bits, and one more than the greatest integer with a sign. -/
def signBit : Nat := 0x8000000000000000

inductive Value where
  | null
  | bool (b : Bool)
  | number (n : Number)
  | string (s : String)
  | array (items : List Value)
  | object (fields : List (String × Value))
deriving Repr

/-- The fields of an object. -/
abbrev Fields := List (String × Value)

instance : Inhabited Value := ⟨.null⟩

/-- The value of a field. -/
def Fields.get? (key : String) : Fields → Option Value
  | [] => none
  | (k, v) :: rest => if k = key then some v else get? key rest

/-- Replaces the value of a field, or adds the field at the end. -/
def Fields.set (key : String) (value : Value) : Fields → Fields
  | [] => [(key, value)]
  | (k, v) :: rest => if k = key then (k, value) :: rest else (k, v) :: Fields.set key value rest

@[simp] theorem Fields.get?_set_self (key : String) (value : Value) (fields : Fields) :
    Fields.get? key (Fields.set key value fields) = some value := by
  induction fields with
  | nil => simp [Fields.set, Fields.get?]
  | cons f rest ih =>
      obtain ⟨k, v⟩ := f
      by_cases h : k = key
      · simp [Fields.set, Fields.get?, h]
      · simp [Fields.set, Fields.get?, h, ih]

/-- Setting a field leaves all other fields as they are. -/
theorem Fields.get?_set_of_ne {key other : String} (h : other ≠ key) (value : Value)
    (fields : Fields) :
    Fields.get? other (Fields.set key value fields) = Fields.get? other fields := by
  induction fields with
  | nil => simp [Fields.set, Fields.get?, Ne.symm h]
  | cons f rest ih =>
      obtain ⟨k, v⟩ := f
      by_cases hk : k = key
      · subst hk
        simp [Fields.set, Fields.get?, Ne.symm h]
      · simp [Fields.set, Fields.get?, hk, ih]

end Phrasebook.Json
