import Phrasebook.Config.Basic
import Phrasebook.Json.Reader

/-!
Reading a configuration.

A configuration is an object with any of its fields, each at most once; other fields are skipped.
It can also be an array with the fields in their order, of which the last may be missing.
-/

namespace Phrasebook.Config

open Json (Read ReadError)

/-- A field and how it is read into a configuration. -/
structure Field where
  name : String
  read : Config → List Char → Read Config

def Field.text (name : String) (set : Config → String → Config) : Field :=
  ⟨name, fun c cs => (Json.readString cs).map fun (s, rest) => (set c s, rest)⟩

def Field.texts (name : String) (set : Config → List String → Config) : Field :=
  ⟨name, fun c cs => (Json.readStrings cs).map fun (ss, rest) => (set c ss, rest)⟩

def fields : List Field :=
  [.text "componentsRoot" fun c s => { c with componentsRoot := s },
   .text "localesRoot" fun c s => { c with localesRoot := s },
   .text "baseLocale" fun c s => { c with baseLocale := s },
   .texts "mockLocales" fun c ss => { c with mockLocales := ss },
   .texts "only" fun c ss => { c with only := ss },
   .texts "extensions" fun c ss => { c with extensions := ss },
   .texts "ignores" fun c ss => { c with ignores := ss },
   .text "frameworkModule" fun c s => { c with frameworkModule := s },
   .text "i18nModule" fun c s => { c with i18nModule := s },
   .texts "translatableAttributes" fun c ss => { c with translatableAttributes := ss },
   .texts "componentBaseClasses" fun c ss => { c with componentBaseClasses := ss }]

/-- What was read so far, and the names of the fields that were given. -/
structure ObjectState where
  config : Config
  seen : List String

/-- The colon between a key and its value. -/
def readColon (cs : List Char) : Read Unit :=
  match Json.skipBlanks cs with
  | [] => .error .ended
  | c :: rest => if c = ':' then .ok ((), rest) else .error .malformed

/-- A key, without its colon. -/
def readName (cs : List Char) : Read String :=
  match Json.skipBlanks cs with
  | [] => .error .ended
  | c :: rest =>
      if c = '"' then (Json.readText true rest).map fun (s, r) => (String.ofList s, r)
      else .error .malformed

/-- A field that is known, from its colon on. -/
def readKnown (field : Field) (s : ObjectState) (cs : List Char) : Read ObjectState :=
  match readColon cs with
  | .error e => .error e
  | .ok (_, cs) =>
      (field.read s.config cs).map fun (config, rest) => (⟨config, field.name :: s.seen⟩, rest)

/-- A field that is not known, from its colon on. -/
def skipUnknown (s : ObjectState) (cs : List Char) : Read ObjectState :=
  match readColon cs with
  | .error e => .error e
  | .ok (_, cs) => (Json.skipValue cs).map fun (_, rest) => (s, rest)

/-- A field of an object. A known field that comes again is refused before its value is read. -/
def readMember (s : ObjectState) (cs : List Char) : Read ObjectState :=
  match readName cs with
  | .error e => .error e
  | .ok (name, cs) =>
      match fields.find? (·.name = name) with
      | none => skipUnknown s cs
      | some field => if s.seen.contains name then .error .mismatch else readKnown field s cs

/-- An item of an array, which is the next of the fields that are left. -/
def readItem (s : Config × List Field) (cs : List Char) : Read (Config × List Field) :=
  match s.2 with
  | [] => .error .malformed
  | field :: left => (field.read s.1 cs).map fun (c, rest) => ((c, left), rest)

/-- Reads a configuration from a place on. -/
def readConfig (cs : List Char) : Read Config :=
  match Json.skipBlanks cs with
  | [] => .error .ended
  | c :: rest =>
      if c = '\x7b' then
        (Json.readSeq '\x7d' (fun _ => false) readMember (rest.length + 1) true ⟨{}, []⟩ rest).map
          fun (s, r) => (s.config, r)
      else if c = '[' then
        (Json.readSeq ']' (fun s => s.2.isEmpty) readItem (rest.length + 1) true ({}, fields)
          rest).map fun (s, r) => (s.1, r)
      else .error (Json.mismatchAt c rest)

/-- Reads a whole text as a configuration. -/
def parse (text : String) : Except ReadError Config := Json.complete (readConfig text.toList)

end Phrasebook.Config
