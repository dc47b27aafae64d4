import Phrasebook.Mock.Shuffle
import Phrasebook.Run.Report
import Phrasebook.Run.Settings
import Phrasebook.Scan.Files

/-!
A run over a project.

All files of a namespace are read before any of them is written. If a catalog of the namespace
cannot be used, none of its files is written. The texts of a file go to the catalog only after the
file was written.
-/

namespace Phrasebook

/-- What a run works with. -/
structure Engine where
  /-- Migrates a source, given the options, its path and its namespace. -/
  transform : Component.Options → String → String → String →
    Except Component.MigrationError Component.Outcome := Component.migrate
  translate : Catalog.Translator := Mock.shuffled
  write : Writer := Workspace.replace

/-- Why a file failed. -/
inductive FileError where
  | unreadable (cause : AccessError)
  | migration (cause : Component.MigrationError)
  /-- A catalog of the namespace cannot be used. -/
  | blocked (namespaceName : String) (cause : Catalog.LoadError)
  | write (cause : WriteError)
deriving DecidableEq, Repr

def FileError.message (path : String) : FileError → String
  | .unreadable cause => "Failed to read file: " ++ path ++ ": " ++ cause.message
  | .migration cause => cause.message path
  | .blocked namespaceName cause =>
      "Existing catalog of " ++ namespaceName ++ " cannot be updated: " ++ cause.message
  | .write cause => cause.message

/-- Why a run cannot start. -/
inductive RunError where
  | components (root : String) (cause : AccessError)
deriving DecidableEq, Repr

def RunError.message : RunError → String
  | .components root cause =>
      "Failed to read components directory: " ++ root ++ ": " ++ cause.message

/-- What a run leaves behind. -/
structure Finished where
  workspace : Workspace
  report : Report
  warnings : List Scan.Warning
deriving DecidableEq, Repr

namespace Run

/-- A path as it is shown. -/
def display (root path : String) : String :=
  String.ofList ((Path.relative root path).toList.map fun c => if c = '\\' then '/' else c)

/-- Migrates the text of a file. -/
def outcome (e : Engine) (s : Settings) (namespaceName : String) (w : Workspace) (path : String) :
    Except FileError Component.Outcome :=
  match w.readText path with
  | .error cause => .error (.unreadable cause)
  | .ok source =>
      match e.transform s.toOptions path namespaceName source with
      | .error cause => .error (.migration cause)
      | .ok o => .ok o

/-- Whether a file asks for the catalogs of its namespace. -/
def needsCatalog : Except FileError Component.Outcome → Bool
  | .ok (.migrated _) => true
  | _ => false

/-- How far a run is within a namespace. -/
structure Progress where
  workspace : Workspace
  /-- The texts of the files so far. -/
  fresh : Json.Fields := []
  keys : Nat := 0
  files : List FileReport := []

/-- Puts the code of a file in its place, unless a catalog blocks it or nothing is to be
written. -/
def place (e : Engine) (s : Settings) (namespaceName : String) (blocked : Option Catalog.LoadError)
    (w : Workspace) (path code : String) : Workspace × Option FileError :=
  match blocked with
  | some cause => (w, some (.blocked namespaceName cause))
  | none =>
      if s.apply then
        let (w, failure) := e.write w path (.text code)
        (w, failure.map .write)
      else (w, none)

/-- Goes on with one file. -/
def advance (e : Engine) (s : Settings) (namespaceName : String)
    (blocked : Option Catalog.LoadError) (p : Progress)
    (file : String × Except FileError Component.Outcome) : Progress :=
  let (path, outcome) := file
  let shown := display s.componentsRoot path
  match outcome with
  | .error cause =>
      { p with files := p.files ++ [⟨path, shown, .failed (cause.message path), [], false⟩] }
  | .ok (.skipped reason diagnostics) =>
      { p with files := p.files ++ [⟨path, shown, .skipped reason, diagnostics, false⟩] }
  | .ok (.migrated m) =>
      match place e s namespaceName blocked p.workspace path m.code with
      | (w, some cause) =>
          { p with
            workspace := w
            files := p.files ++ [⟨path, shown, .failed (cause.message path), m.diagnostics, false⟩] }
      | (w, none) =>
          { workspace := w
            fresh := Catalog.extend p.fresh m.entries
            keys := p.keys + m.entries.length
            files := p.files ++
              [⟨path, shown, .translated m.entries.length, m.diagnostics, m.observed⟩] }

/-- Writes the catalogs of a namespace, or says which would be written. -/
def finish (e : Engine) (s : Settings) (n : NamespaceReport) (existing : Catalog.Existing)
    (fresh : Json.Fields) (w : Workspace) : Workspace × NamespaceReport :=
  if s.apply then
    match s.store.saveNamespace e.write e.translate w n.name existing fresh with
    | (w, .ok written) => (w, { n with written })
    | (w, .error cause) => (w, { n with catalogError := some cause.message })
  else (w, { n with planned := s.store.paths n.name })

/-- Migrates the files that were found in a namespace. -/
def migrateFiles (e : Engine) (s : Settings) (namespaceName : String) (found : Scan.Found)
    (w : Workspace) : Workspace × NamespaceReport :=
  let outcomes := found.files.map fun path => (path, outcome e s namespaceName w path)
  let existing :=
    if outcomes.any (fun o => needsCatalog o.2) then
      (s.store.loadExisting w namespaceName).map some
    else .ok none
  let blocked := match existing with
    | .error cause => some cause
    | .ok _ => none
  let p := outcomes.foldl (advance e s namespaceName blocked) { workspace := w }
  let n : NamespaceReport :=
    { name := namespaceName, files := p.files, keys := p.keys,
      inaccessible := found.inaccessible.length }
  match existing with
  | .ok (some existing) =>
      if p.fresh.isEmpty then (p.workspace, n) else finish e s n existing p.fresh p.workspace
  | _ => (p.workspace, n)

/-- Migrates some namespaces, one after the other. -/
def migrateNamespaces (e : Engine) (s : Settings) (rules : Scan.IgnoreRules) :
    List Scan.Namespace → Workspace → Workspace × List NamespaceReport × List Scan.Warning
  | [], w => (w, [], [])
  | n :: rest, w =>
      let found := Scan.sourceFiles w s.extensions rules n.directory
      let (w, report) := migrateFiles e s n.name found w
      let (w, reports, warnings) := migrateNamespaces e s rules rest w
      (w, report :: reports, found.warnings ++ warnings)

end Run

/-- Migrates a project. Only a run that cannot start is an error; what fails later is part of the
report. -/
def migrate (e : Engine) (s : Settings) (w : Workspace) : Except RunError Finished :=
  match Scan.namespaces w s.componentsRoot s.only with
  | .error cause => .error (.components s.componentsRoot cause)
  | .ok found =>
      let rules := Scan.IgnoreRules.ofEntries s.componentsRoot s.ignores
      let (w, namespaces, warnings) := Run.migrateNamespaces e s rules found w
      .ok {
        workspace := w
        report := { namespaces, applied := s.apply }
        warnings := Scan.patternWarnings s.ignores ++ warnings }

end Phrasebook
