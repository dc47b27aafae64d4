import Phrasebook.Catalog.Store
import Phrasebook.Component.Migration

/-!
What a run did: file by file, namespace by namespace.
-/

namespace Phrasebook

/-- What became of a file. -/
inductive FileStatus where
  /-- So many texts were taken out of it. -/
  | translated (keys : Nat)
  | skipped (reason : Component.SkipReason)
  | failed (reason : String)
deriving DecidableEq, Repr

namespace FileStatus

def isTranslated : FileStatus → Bool
  | .translated _ => true
  | _ => false

def isSkipped : FileStatus → Bool
  | .skipped _ => true
  | _ => false

def isFailed : FileStatus → Bool
  | .failed _ => true
  | _ => false

end FileStatus

structure FileReport where
  path : String
  /-- The path from the directory of components. -/
  display : String
  status : FileStatus
  diagnostics : List Component.Diagnostic := []
  /-- Whether a hook now stands inside an observer. -/
  observed : Bool := false
deriving DecidableEq, Repr

structure NamespaceReport where
  name : String
  files : List FileReport := []
  /-- The catalogs that were written. -/
  written : List Catalog.Written := []
  /-- The catalogs that would be written. -/
  planned : List String := []
  /-- The number of texts taken out of the files. -/
  keys : Nat := 0
  catalogError : Option String := none
  /-- The number of paths that could not be looked at. -/
  inaccessible : Nat := 0
deriving DecidableEq, Repr

structure Report where
  namespaces : List NamespaceReport := []
  /-- Whether anything was to be written. -/
  applied : Bool := false
deriving DecidableEq, Repr

namespace Report

/-- A number summed up over the namespaces. -/
def total (r : Report) (count : NamespaceReport → Nat) : Nat :=
  r.namespaces.foldr (fun n sum => count n + sum) 0

def files (r : Report) : List FileReport := r.namespaces.flatMap (·.files)

def translatedCount (r : Report) : Nat := r.files.countP (·.status.isTranslated)

def skippedCount (r : Report) : Nat := r.files.countP (·.status.isSkipped)

def failedCount (r : Report) : Nat := r.files.countP (·.status.isFailed)

def catalogErrorCount (r : Report) : Nat := r.namespaces.countP (·.catalogError.isSome)

def keyCount (r : Report) : Nat := r.total (·.keys)

def inaccessibleCount (r : Report) : Nat := r.total (·.inaccessible)

/-- The number of catalogs that were written, or would be. -/
def catalogCount (r : Report) : Nat :=
  r.total fun n => if r.applied then n.written.length else n.planned.length

/-- The files in which a hook now stands inside an observer. -/
def observedFiles (r : Report) : List String := (r.files.filter (·.observed)).map (·.display)

/-- The number of failures that make a run unsuccessful. -/
def failureCount (r : Report) : Nat := r.failedCount + r.catalogErrorCount

end Report

end Phrasebook
