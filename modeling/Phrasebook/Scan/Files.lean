import Phrasebook.Disk.Workspace
import Phrasebook.Scan.Ignore

/-!
The namespaces of a project and the source files in them.
-/

namespace Phrasebook.Scan

/-- A directory of components; its name is that of their catalogs. -/
structure Namespace where
  name : String
  directory : String
deriving DecidableEq, Repr

/-- Whether a list of namespaces asks for a name. Slashes in front of an entry do not count, and an
empty list asks for all. -/
def isSelected (only : List String) (name : String) : Bool :=
  only.isEmpty || only.any fun o => String.ofList (o.toList.dropWhile (· = '/')) = name

/-- The directories in a directory, by name. -/
def namespaces (w : Workspace) (root : String) (only : List String) :
    Except AccessError (List Namespace) :=
  (w.list root).map fun nodes =>
    let names := (nodes.filter fun (name, n) => n.isDirectory && isSelected only name).map (·.1)
    (names.mergeSort fun a b => a ≤ b).map fun name => ⟨name, Path.join root name⟩

/-- What a scan of a directory found. -/
structure Found where
  /-- The source files, in the order of paths. -/
  files : List String
  /-- What could not be looked at. -/
  inaccessible : List (String × AccessError)
deriving DecidableEq, Repr

/-- The regular files at a path and below it. -/
def regularFiles (w : Workspace) (path : String) : Except AccessError (List String) :=
  match w.locate path with
  | .error e => .error e
  | .ok loc =>
      match w.disk.get? loc with
      | none => .error .missing
      | some (.file _ _) => .ok [path]
      | some (.directory _) =>
          .ok ((w.disk.below loc).filterMap fun (names, n) =>
            if n.isDirectory then none else some (names.foldl Path.join path))

def hasExtension (extensions : List String) (path : String) : Bool :=
  match Path.extension? path with
  | none => false
  | some e => extensions.contains e

/-- The source files of a directory that no rule leaves out. -/
def sourceFiles (w : Workspace) (extensions : List String) (rules : IgnoreRules)
    (directory : String) : Found :=
  match regularFiles w directory with
  | .error e => ⟨[], [(directory, e)]⟩
  | .ok all =>
      let kept := all.filter fun p => !rules.ignores p && hasExtension extensions p
      ⟨kept.mergeSort Path.le, []⟩

/-- What a scan tells about besides its files. -/
inductive Warning where
  | invalidPattern (text : String) (cause : Glob.PatternError)
  | inaccessible (path : String) (cause : AccessError)
deriving DecidableEq, Repr

def Warning.message : Warning → String
  | .invalidPattern text cause => "Invalid ignore pattern '" ++ text ++ "': " ++ cause.message
  | .inaccessible path cause =>
      "Cannot access path: IO error for operation on " ++ path ++ ": " ++ cause.message

/-- The warnings about a list of ignored paths. -/
def patternWarnings (entries : List String) : List Warning :=
  (invalidPatterns entries).map fun (text, cause) => .invalidPattern text cause

/-- The warnings about what could not be looked at. -/
def Found.warnings (f : Found) : List Warning :=
  f.inaccessible.map fun (path, cause) => .inaccessible path cause

end Phrasebook.Scan
