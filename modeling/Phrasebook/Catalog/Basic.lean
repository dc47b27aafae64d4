import Phrasebook.Catalog.Entry
import Phrasebook.Json.Value

/-!
Catalogs: nested objects with texts at their ends.

A key names a path through the objects, with points between its segments.
-/

namespace Phrasebook.Catalog

open Json (Fields Value)

/-- The segments of a key. -/
def segments : List Char → List (List Char)
  | [] => [[]]
  | c :: cs =>
      if c = '.' then [] :: segments cs
      else
        match segments cs with
        | [] => [[c]]
        | s :: ss => (c :: s) :: ss

/-- The path that a key names. -/
def keyPath (key : String) : List String := (segments key.toList).map String.ofList

/-- The fields of an object; anything else counts as an object without fields. -/
def innerFields : Option Value → Fields
  | some (.object fields) => fields
  | _ => []

/-- Puts a text at a path. Objects on the way are made where they are missing, and take the place
of other values. -/
def insertAt (text : String) : List String → Fields → Fields
  | [], fields => fields
  | [key], fields => fields.set key (.string text)
  | key :: path, fields =>
      fields.set key (.object (insertAt text path (innerFields (fields.get? key))))

/-- Puts a text at a key. -/
def insert (key text : String) (fields : Fields) : Fields := insertAt text (keyPath key) fields

/-- Puts the texts of entries at their keys, one after the other. -/
def extend (fields : Fields) (entries : List Entry) : Fields :=
  entries.foldl (fun fs e => insert e.key e.text fs) fields

mutual

/-- The number of values that are no objects, in a value. -/
def leaves : Value → Nat
  | .object fields => keyCount fields
  | _ => 1

/-- The number of values that are no objects, at any depth. -/
def keyCount : List (String × Value) → Nat
  | [] => 0
  | (_, v) :: fields => leaves v + keyCount fields

end

mutual

/-- What is there keeps its value; objects on both sides are merged. -/
def mergeValue (existing : Value) : Value → Value
  | .object fresh =>
      match existing with
      | .object fields => .object (merge fields fresh)
      | other => other
  | _ => existing

/-- Merges new fields into existing ones. What exists wins, and new fields come behind. -/
def merge (existing : Fields) : List (String × Value) → Fields
  | [] => existing
  | (key, value) :: fresh =>
      match existing.get? key with
      | none => merge (existing ++ [(key, value)]) fresh
      | some old => merge (existing.set key (mergeValue old value)) fresh

end

mutual

/-- A value with each of its texts replaced. -/
def mapValue (f : String → String) : Value → Value
  | .string s => .string (f s)
  | .array items => .array (mapItems f items)
  | .object fields => .object (mapTexts f fields)
  | other => other

def mapItems (f : String → String) : List Value → List Value
  | [] => []
  | v :: vs => mapValue f v :: mapItems f vs

/-- A catalog with each of its texts replaced. -/
def mapTexts (f : String → String) : List (String × Value) → List (String × Value)
  | [] => []
  | (key, v) :: fields => (key, mapValue f v) :: mapTexts f fields

end

/-- Makes a text for another locale out of a text. -/
abbrev Translator := String → String → String

/-- The catalog of another locale, made from a catalog. -/
def mock (translate : Translator) (locale : String) (fields : Fields) : Fields :=
  mapTexts (translate locale) fields

end Phrasebook.Catalog
