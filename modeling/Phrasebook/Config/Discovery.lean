import Phrasebook.Config.Reader
import Phrasebook.Disk.Workspace
import Phrasebook.Text.Quoted

/-!
Where the configuration of a project comes from.

The way goes up from a directory. It ends at the first configuration file, or at the top of a
repository. A relative path goes up only as far as its text does.
-/

namespace Phrasebook.Config

/-- The name of a configuration file. -/
def fileName : String := ".i18nizerc.json"

/-- The name that marks the top of a repository. -/
def repositoryMark : String := ".git"

/-- The first configuration file on a way. -/
def findAlong (w : Workspace) : List String → Option String
  | [] => none
  | dir :: above =>
      if w.has (Path.join dir fileName) then some (Path.join dir fileName)
      else if w.has (Path.join dir repositoryMark) then none
      else findAlong w above

/-- The configuration file for a directory. -/
def find? (w : Workspace) (start : String) : Option String :=
  findAlong w (start :: Path.parents start)

/-- Why there is no configuration to work with. -/
inductive LoadError where
  | unreadable (path : String) (cause : AccessError)
  | malformed (path : String) (cause : Json.ReadError)
  | invalid (cause : Invalid)
deriving DecidableEq, Repr

/-- The detail of malformed text is left to a reader of the file. -/
def LoadError.message : LoadError → String
  | .unreadable path cause =>
      "Failed to read config file: " ++ Text.quoted path ++ ": " ++ cause.message
  | .malformed path _ => "Failed to parse config file: " ++ Text.quoted path ++ ": <json>"
  | .invalid cause => cause.message

/-- A configuration, and whether a file gave it. -/
structure Loaded where
  config : Config
  fromFile : Bool
deriving DecidableEq, Repr

/-- Accepts a configuration with nothing wrong in it. -/
def checked (c : Config) : Except LoadError Config :=
  match c.invalid? with
  | some e => .error (.invalid e)
  | none => .ok c

/-- The configuration for a directory; without a file, the default one. -/
def load (w : Workspace) (start : String) : Except LoadError Loaded :=
  match find? w start with
  | none => .ok ⟨{}, false⟩
  | some path =>
      match w.readText path with
      | .error e => .error (.unreadable path e)
      | .ok text =>
          match Config.parse text with
          | .error e => .error (.malformed path e)
          | .ok c => (checked c).map fun c => ⟨c, true⟩

end Phrasebook.Config
