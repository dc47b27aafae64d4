import Phrasebook.Disk.Workspace

/-!
Replacing a file as a whole.

The new content goes to a file of its own, which then takes the place of the old one. So the path
leads to the old content or to the new one, and to nothing between them.
-/

namespace Phrasebook

open Disk (Content)

/-- Why a file could not be replaced. -/
inductive WriteError where
  /-- The directory of the file could not be made. -/
  | directory (path : String) (cause : AccessError)
  /-- The new file could not take its place. -/
  | target (path : String) (cause : AccessError)
deriving DecidableEq, Repr

def WriteError.message : WriteError → String
  | .directory path cause => "Failed to create directory: " ++ path ++ ": " ++ cause.message
  | .target path cause => "Failed to write file: " ++ path ++ ": " ++ cause.message

/-- Gives a path a content. If that fails, directories may have been made all the same. -/
abbrev Writer := Workspace → String → Content → Workspace × Option WriteError

namespace Workspace

/-- The directory that a file is written to. -/
def directoryOf (path : String) : String :=
  match Path.parent? path with
  | none => "."
  | some dir => if dir.isEmpty then "." else dir

/-- What keeps a file from taking a place whatever is there. -/
def unfit? (path : String) : Option AccessError :=
  match (Path.pieces path.toList).reverse with
  | ['.'] :: _ => some .busy
  | ['.', '.'] :: _ => some .busy
  | [] :: _ :: _ => some (if Path.parts path = [.root] then .busy else .notDirectory)
  | _ => none

/-- Lets a new file take a place. -/
def install (w : Workspace) (path : String) (content : Content) :
    Except AccessError Workspace :=
  match w.locate path, unfit? path with
  | .error e, _ => .error e
  | .ok _, some e => .error e
  | .ok _, none => w.putFile path content

/-- Replaces a file as a whole, and makes its directory if that is missing. -/
def replace : Writer := fun w path content =>
  let dir := directoryOf path
  match w.makeDirectories dir with
  | (w, some e) => (w, some (.directory dir e))
  | (w, none) =>
      match w.install path content with
      | .error e => (w, some (.target path e))
      | .ok w => (w, none)

end Workspace

end Phrasebook
