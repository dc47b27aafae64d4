import Phrasebook.Glob.Pattern
import Phrasebook.Path.Basic

/-!
Which paths a scan leaves out.

An entry with a star or a question mark is a pattern for the full path. Any other entry is a path
below a base directory and leaves out itself and everything below it.
-/

namespace Phrasebook.Scan

structure IgnoreRules where
  /-- The parts of the paths below which everything is left out. -/
  literals : List (List Path.Part)
  patterns : List (List Glob.Token)
deriving DecidableEq, Repr

/-- Whether an entry is read as a pattern. -/
def isPattern (entry : String) : Bool := entry.toList.any fun c => c = '*' || c = '?'

/-- The rules of a list of entries; entries that are no valid patterns are dropped. -/
def IgnoreRules.ofEntries (base : String) (entries : List String) : IgnoreRules where
  literals := (entries.filter (!isPattern ·)).map fun e => Path.parts (Path.join base e)
  patterns := (entries.filter isPattern).filterMap fun e => (Glob.parse e).toOption

/-- The patterns that were dropped, with what is wrong with them. -/
def invalidPatterns (entries : List String) : List (String × Glob.PatternError) :=
  (entries.filter isPattern).filterMap fun e =>
    match Glob.parse e with
    | .ok _ => none
    | .error err => some (e, err)

/-- Whether a path is left out. -/
def IgnoreRules.ignores (rules : IgnoreRules) (path : String) : Bool :=
  rules.literals.any (fun p => p.isPrefixOf (Path.parts path))
    || rules.patterns.any (fun p => Glob.accepts p path.toList)

end Phrasebook.Scan
