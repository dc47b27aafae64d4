import Phrasebook.Component.Accessor
import Phrasebook.Component.Eligibility
import Phrasebook.Component.Literal
import Phrasebook.Script.Parser

/-!
The migration of one file: its text goes to the catalog, and lookups take its place.

The reader of the source is a parameter, so that what follows depends on nothing but the tree that
it gives. A result that cannot be read again is refused.
-/

namespace Phrasebook.Component

open Script
open Source (EditError)
open Catalog (Entry)

/-- Why a file is left as it is. -/
inductive SkipReason where
  | notComponent
  | alreadyMigrated
  | noText
deriving DecidableEq, Repr

def SkipReason.label : SkipReason → String
  | .notComponent => "not a component"
  | .alreadyMigrated => "already migrated"
  | .noText => "no translatable text"

/-- What somebody should look at, though the file can be migrated. -/
inductive Diagnostic where
  /-- No rule found a name, so every key starts with a point. -/
  | unresolvedName
  /-- There are lookups, but nothing could be given access to the lookup function. -/
  | accessMissing
deriving DecidableEq, Repr

def Diagnostic.message : Diagnostic → String
  | .unresolvedName => "failed to find component name"
  | .accessMissing => "no component function or default export to attach the translation hook to"

/-- A file that was migrated. -/
structure Migrated where
  code : String
  /-- The extracted texts in the order in which they were found. -/
  entries : List Entry
  component : Identity
  /-- Whether the lookup function was made known. -/
  injected : Bool
  /-- Whether the file may break because a hook stands inside an observer. -/
  observed : Bool
  diagnostics : List Diagnostic
deriving DecidableEq, Repr

inductive Outcome where
  | skipped (reason : SkipReason) (diagnostics : List Diagnostic)
  | migrated (file : Migrated)
deriving DecidableEq, Repr

/-- Why a file cannot be migrated. -/
inductive MigrationError where
  /-- The source cannot be read. -/
  | unreadable
  /-- The edits do not fit the source. -/
  | edits (cause : EditError)
  /-- The result cannot be read. -/
  | unreadableResult
deriving DecidableEq, Repr

/-- The message about a source that cannot be read. The detail is left to the reader of it. -/
def unreadableMessage (path : String) : String := "Failed to parse " ++ path ++ ": <parser>"

def MigrationError.message (path : String) : MigrationError → String
  | .unreadable => unreadableMessage path
  | .edits cause => "Failed to rewrite " ++ path ++ ": " ++ cause.message
  | .unreadableResult =>
      "Rewritten source of " ++ path ++ " is not valid: " ++ unreadableMessage path

/-- Whether a text contains another. -/
def containsText (part : List Char) : List Char → Bool
  | [] => part.isEmpty
  | c :: cs => part.isPrefixOf (c :: cs) || containsText part cs

/-- An observer in a file without classes: the function it wraps now calls a hook, which older
observers do not support. -/
def isObserved (source : String) : Bool :=
  containsText "observer".toList source.toList && !containsText "class ".toList source.toList

/-- Migrates an eligible module. -/
def migrateEligible (read : String → Option Module) (options : Options) (namespaceName : String)
    (quote : Char) (source : String) (m : Module) : Except MigrationError Outcome :=
  let c := classify options m
  let found := literals options m
  let unnamed := if c.hasName then [] else [Diagnostic.unresolvedName]
  if found.isEmpty then .ok (.skipped .noText unnamed)
  else
    let (access, accessEdits) := access options source.toList c ⟨namespaceName, quote⟩ m true
    let missing := if access = .missing then [Diagnostic.accessMissing] else []
    match Source.applyEdits source (found.map (·.edit c) ++ accessEdits) with
    | .error cause => .error (.edits cause)
    | .ok code =>
        if (read code).isNone then .error .unreadableResult
        else .ok (.migrated {
          code, entries := found.map (·.entry c), component := c,
          injected := access = .injected, observed := isObserved source,
          diagnostics := unnamed ++ missing })

/-- Migrates a source with a given reader. -/
def migrateWith (read : String → Option Module) (options : Options) (namespaceName : String)
    (source : String) : Except MigrationError Outcome :=
  match read source with
  | none => .error .unreadable
  | some m =>
      match eligibility options m with
      | .notComponent => .ok (.skipped .notComponent [])
      | .alreadyMigrated => .ok (.skipped .alreadyMigrated [])
      | .eligible quote => migrateEligible read options namespaceName quote source m

/-- Migrates a source; its path decides the dialect. -/
def migrate (options : Options) (path namespaceName source : String) :
    Except MigrationError Outcome :=
  migrateWith (Script.parse (.ofPath path)) options namespaceName source

end Phrasebook.Component
