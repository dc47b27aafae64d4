import Phrasebook.Catalog.Basic
import Phrasebook.Disk.Replace
import Phrasebook.Json.Printer
import Phrasebook.Json.Reader

/-!
Catalogs on disk: a directory for each locale, and in it a file for each namespace.

The catalogs of the mock locales follow the base locale. What a locale already says stays.
-/

namespace Phrasebook.Catalog

open Json (Fields Value)

/-- Why a catalog cannot be used. -/
inductive LoadError where
  | unreadable (path : String) (cause : AccessError)
  | malformed (path : String) (cause : Json.ReadError)
  | notObject (path : String)
deriving DecidableEq, Repr

/-- The detail of malformed text is left to a reader of the file. -/
def LoadError.message : LoadError → String
  | .unreadable path cause => "Failed to read file: " ++ path ++ ": " ++ cause.message
  | .malformed path _ => "Failed to parse JSON: " ++ path ++ ": <json>"
  | .notObject path => "Root of JSON file must be an object: " ++ path

/-- The catalog that a text holds. -/
def ofText (path text : String) : Except LoadError Fields :=
  match Json.parse text with
  | .error e => .error (.malformed path e)
  | .ok (.object fields) => .ok fields
  | .ok _ => .error (.notObject path)

/-- The text of a catalog: four blanks for each level, and a line end at the end. -/
def toText (fields : Fields) : String := (Value.object fields).indented 4 ++ "\n"

/-- Reads a catalog, if it is there. -/
def load (w : Workspace) (path : String) : Except LoadError (Option Fields) :=
  if !w.has path then .ok none
  else
    match w.readText path with
    | .error e => .error (.unreadable path e)
    | .ok text => (ofText path text).map some

/-- Writes a catalog. -/
def save (write : Writer) (w : Workspace) (path : String) (fields : Fields) :
    Workspace × Option WriteError :=
  write w path (.text (toText fields))

/-- Where the catalogs of a project are. -/
structure Store where
  root : String
  baseLocale : String
  mockLocales : List String
deriving DecidableEq, Repr

/-- The catalogs of a namespace that are there, empty where there is none. -/
structure Existing where
  base : Fields
  /-- The mock locales in their order, each with its catalog. -/
  mocks : List (String × Fields)

/-- A catalog that was written. -/
structure Written where
  locale : String
  path : String
  keys : Nat
deriving DecidableEq, Repr

namespace Store

def path (s : Store) (namespaceName locale : String) : String :=
  Path.join (Path.join s.root locale) (namespaceName ++ ".json")

/-- The paths of all catalogs of a namespace, that of the base locale first. -/
def paths (s : Store) (namespaceName : String) : List String :=
  (s.baseLocale :: s.mockLocales).map (s.path namespaceName)

/-- The catalog of a namespace in a locale, empty if there is none. -/
def loadLocale (s : Store) (w : Workspace) (namespaceName locale : String) :
    Except LoadError Fields :=
  (load w (s.path namespaceName locale)).map (·.getD [])

/-- The catalogs of a namespace in some locales. The first that cannot be used decides. -/
def loadLocales (s : Store) (w : Workspace) (namespaceName : String) (locales : List String) :
    Except LoadError (List (String × Fields)) :=
  locales.mapM fun locale => (s.loadLocale w namespaceName locale).map fun fields => (locale, fields)

/-- All catalogs of a namespace. -/
def loadExisting (s : Store) (w : Workspace) (namespaceName : String) :
    Except LoadError Existing :=
  match s.loadLocale w namespaceName s.baseLocale with
  | .error e => .error e
  | .ok base => (s.loadLocales w namespaceName s.mockLocales).map fun mocks => ⟨base, mocks⟩

/-- Writes the catalogs of some locales, until one fails. -/
def saveLocales (s : Store) (write : Writer) (namespaceName : String) (w : Workspace) :
    List (String × Fields) → Workspace × Except WriteError (List Written)
  | [] => (w, .ok [])
  | (locale, fields) :: rest =>
      let path := s.path namespaceName locale
      match save write w path fields with
      | (w, some e) => (w, .error e)
      | (w, none) =>
          let (w, result) := s.saveLocales write namespaceName w rest
          (w, result.map (⟨locale, path, keyCount fields⟩ :: ·))

/-- The catalogs that a namespace gets, each with its locale. -/
def updated (s : Store) (translate : Translator) (existing : Existing) (fresh : Fields) :
    List (String × Fields) :=
  let base := merge existing.base fresh
  (s.baseLocale, base) ::
    existing.mocks.map fun (locale, old) => (locale, merge old (mock translate locale base))

/-- Merges new texts into the catalogs of a namespace and writes them. -/
def saveNamespace (s : Store) (write : Writer) (translate : Translator) (w : Workspace)
    (namespaceName : String) (existing : Existing) (fresh : Fields) :
    Workspace × Except WriteError (List Written) :=
  s.saveLocales write namespaceName w (s.updated translate existing fresh)

end Store

end Phrasebook.Catalog
