import Phrasebook.Disk.Basic
import Phrasebook.Path.Basic

/-!
A disk as it is seen from a directory: relative paths start there.

A path is followed part by part. Each part but the last must lead to a directory that is there.
-/

namespace Phrasebook

open Disk (Content Location Node newDirectoryMode newFileMode)

/-- Why something on a disk cannot be reached or made. -/
inductive AccessError where
  | missing
  | busy
  | alreadyThere
  | notDirectory
  | isDirectory
  | nameTooLong
  | zeroInName
  | notText
deriving DecidableEq, Repr

def AccessError.message : AccessError → String
  | .missing => "No such file or directory (os error 2)"
  | .busy => "Device or resource busy (os error 16)"
  | .alreadyThere => "File exists (os error 17)"
  | .notDirectory => "Not a directory (os error 20)"
  | .isDirectory => "Is a directory (os error 21)"
  | .nameTooLong => "File name too long (os error 36)"
  | .zeroInName => "file name contained an unexpected NUL byte"
  | .notText => "stream did not contain valid UTF-8"

structure Workspace where
  disk : Disk
  /-- Where relative paths start. -/
  directory : Location
deriving DecidableEq, Repr

/-- The most bytes that a name can have. -/
def maxNameLength : Nat := 255

/-- The most bytes that a path can have. -/
def maxPathLength : Nat := 4095

/-- Goes from a directory along one part of a path. -/
def Disk.step (disk : Disk) (loc : Location) (part : Path.Part) : Except AccessError Location :=
  match disk.get? loc with
  | none => .error .missing
  | some (.file _ _) => .error .notDirectory
  | some (.directory _) =>
      match part with
      | .root => .ok []
      | .here => .ok loc
      | .up => .ok loc.dropLast
      | .name n => if n.utf8ByteSize > maxNameLength then .error .nameTooLong else .ok (loc ++ [n])

/-- Goes along the parts of a path. -/
def Disk.walk (disk : Disk) : Location → List Path.Part → Except AccessError Location
  | loc, [] => .ok loc
  | loc, part :: rest =>
      match disk.step loc part with
      | .error e => .error e
      | .ok next => disk.walk next rest

namespace Workspace

/-- Whether the end of a path asks for a directory. -/
def endsOpen (path : String) : Bool :=
  match (Path.pieces path.toList).reverse with
  | p :: _ :: _ => Path.isIdle p
  | _ => false

/-- The location that a path names. Nothing needs to be there. -/
def locate (w : Workspace) (path : String) : Except AccessError Location :=
  if path.toList.contains (Char.ofNat 0) then .error .zeroInName
  else if path.isEmpty then .error .missing
  else if path.utf8ByteSize > maxPathLength then .error .nameTooLong
  else
    match w.disk.walk (if Path.isAbsolute path then [] else w.directory) (Path.parts path) with
    | .error e => .error e
    | .ok loc =>
        match w.disk.get? loc with
        | some (.file _ _) => if endsOpen path then .error .notDirectory else .ok loc
        | _ => .ok loc

/-- What a path leads to. -/
def node (w : Workspace) (path : String) : Except AccessError Node :=
  match w.locate path with
  | .error e => .error e
  | .ok loc =>
      match w.disk.get? loc with
      | none => .error .missing
      | some n => .ok n

/-- Whether a path leads to something. -/
def has (w : Workspace) (path : String) : Bool :=
  match w.node path with
  | .ok _ => true
  | .error _ => false

/-- Whether a path leads to a directory. -/
def hasDirectory (w : Workspace) (path : String) : Bool :=
  match w.node path with
  | .ok n => n.isDirectory
  | .error _ => false

/-- The text of a file. -/
def readText (w : Workspace) (path : String) : Except AccessError String :=
  match w.node path with
  | .error e => .error e
  | .ok (.directory _) => .error .isDirectory
  | .ok (.file (.bytes _) _) => .error .notText
  | .ok (.file (.text s) _) => .ok s

/-- What lies directly in a directory. -/
def list (w : Workspace) (path : String) : Except AccessError (List (String × Node)) :=
  match w.locate path with
  | .error e => .error e
  | .ok loc =>
      match w.disk.get? loc with
      | none => .error .missing
      | some (.file _ _) => .error .notDirectory
      | some (.directory _) => .ok (w.disk.children loc)

/-- The same directory of another disk. -/
def withNode (w : Workspace) (loc : Location) (node : Node) : Workspace :=
  { w with disk := w.disk.set loc node }

/-- Makes a directory whose parent is there. -/
def makeDirectory (w : Workspace) (path : String) : Except AccessError Workspace :=
  match w.locate path with
  | .error e => .error e
  | .ok loc =>
      if (w.disk.get? loc).isSome then .error .alreadyThere
      else .ok (w.withNode loc (.directory newDirectoryMode))

/-- Puts a file where none is, or replaces what a file holds and keeps its permissions. -/
def putFile (w : Workspace) (path : String) (content : Content) : Except AccessError Workspace :=
  match w.locate path with
  | .error e => .error e
  | .ok loc =>
      match w.disk.get? loc with
      | some (.directory _) => .error .isDirectory
      | some (.file _ mode) => .ok (w.withNode loc (.file content mode))
      | none => .ok (w.withNode loc (.file content newFileMode))

/-- Makes the first of some directories, of which each lies in the next. Those above it are only
looked at if they are missing. -/
def makeAlong (w : Workspace) : List String → Workspace × Option AccessError
  | [] => (w, some .missing)
  | path :: above =>
      if path.isEmpty then (w, none)
      else
        match w.makeDirectory path with
        | .ok w => (w, none)
        | .error .missing =>
            match w.makeAlong above with
            | (w, some e) => (w, some e)
            | (w, none) =>
                match w.makeDirectory path with
                | .ok w => (w, none)
                | .error e => (w, if w.hasDirectory path then none else some e)
        | .error e => (w, if w.hasDirectory path then none else some e)

/-- Makes a directory with those above it that are missing. -/
def makeDirectories (w : Workspace) (path : String) : Workspace × Option AccessError :=
  w.makeAlong (path :: Path.parents path)

end Workspace

end Phrasebook
