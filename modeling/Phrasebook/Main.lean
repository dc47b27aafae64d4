import Phrasebook.Command.Basic

/-!
The program. It looks at the parts of the disk that a command can need, runs the command on what it
saw, and then writes what the command changed.
-/

namespace Phrasebook.Program

open Disk (Content Location Node newDirectoryMode newFileMode)

/-- The nodes that were seen so far. -/
abbrev Seen := Array (Location × Node)

/-- The location that a path names when nothing on the way is looked at. -/
def locationOf (directory : Location) (path : String) : Location :=
  (Path.parts path).foldl (fun loc part =>
    match part with
    | .root => []
    | .here => loc
    | .up => loc.dropLast
    | .name n => loc ++ [n]) directory

/-- The absolute path of a location. -/
def pathOf (loc : Location) : String := "/" ++ "/".intercalate loc

/-- The directories on the way to a location, and the way itself. -/
def wayTo (loc : Location) : List Location := (List.range (loc.length + 1)).map loc.take

def readContent (path : String) : IO Content := do
  let bytes ← IO.FS.readBinFile path
  match String.fromUTF8? bytes with
  | some s => return .text s
  | none => return .bytes bytes.toList

/-- Looks at what is at a location, and at what is below it if `deep` asks for it. -/
partial def look (deep : Bool) (loc : Location) (seen : Seen) : IO Seen := do
  let path := pathOf loc
  let here := (← IO.currentDir) / path
  if !(← here.pathExists) then return seen
  if !(← here.isDir) then return seen.push (loc, .file (← readContent path) newFileMode)
  let mut seen := seen.push (loc, .directory newDirectoryMode)
  if deep then
    for entry in ← here.readDir do
      seen ← look true (loc ++ [entry.fileName]) seen
  return seen

/-- Looks at everything below a path, and at the directories on the way to it. -/
def lookBelow (directory : Location) (path : String) (seen : Seen) : IO Seen := do
  let loc := locationOf directory path
  let mut seen := seen
  for above in (wayTo loc).dropLast do
    seen ← look false above seen
  look true loc seen

/-- Looks at the working directory and at what decides about the configuration. -/
def lookAround (directory : Location) : IO Seen := do
  let mut seen : Seen := #[]
  for above in wayTo directory do
    seen ← look false above seen
  seen ← look false (directory ++ [Config.fileName]) seen
  look false (directory ++ [Config.repositoryMark]) seen

/-- The disk with the nodes that were seen, each of them once. -/
def workspaceOf (directory : Location) (seen : Seen) : Workspace :=
  ⟨seen.foldl (fun disk (loc, node) => if loc = [] then disk else disk.set loc node) {}, directory⟩

/-- The part of the disk that a request can need. -/
def observe (request : Option Command.Request) : IO Workspace := do
  let directory := locationOf [] (← IO.currentDir).toString
  let seen ← lookAround directory
  let w := workspaceOf directory seen
  match request with
  | some (.migrate o) =>
      match Settings.load w Command.startDirectory o with
      | .error _ => return w
      | .ok s =>
          let seen ← lookBelow directory s.componentsRoot seen
          return workspaceOf directory (← lookBelow directory s.localesRoot seen)
  | _ => return w

def bytesOf : Content → ByteArray
  | .text s => s.toUTF8
  | .bytes bs => ⟨bs.toArray⟩

/-- Writes a node that is new or has changed. A file that was there keeps its permissions. -/
def writeNode (loc : Location) : Node → IO Unit
  | .directory _ => IO.FS.createDirAll (pathOf loc)
  | .file content _ => IO.FS.writeBinFile (pathOf loc) (bytesOf content)

/-- Writes what is new or has changed. -/
def writeBack (before after : Disk) : IO Unit := do
  for (loc, node) in after.nodes do
    if before.get? loc ≠ some node then writeNode loc node

/-- Whether the terminal is to show colors. -/
def showsColor : IO Bool := do
  if (← IO.getEnv "NO_COLOR").isSome then return false
  (← IO.getStdout).isTty

/-- Runs a request and gives the exit code. -/
def execute (request : Option Command.Request) : IO Nat := do
  let before ← observe request
  let ended := Command.run {} (← showsColor) before request
  writeBack before.disk ended.workspace.disk
  IO.eprint ended.printed.err
  IO.print ended.printed.out
  return ended.status.exitCode

/-- Answers a command line that cannot be run. -/
def refuse (usage : Command.Usage) : IO Nat := do
  if usage.exitCode = 0 then IO.print usage.text else IO.eprint usage.text
  return usage.exitCode

end Phrasebook.Program

def main (args : List String) : IO UInt32 := do
  let code ← match Phrasebook.Command.parse args with
    | .error usage => Phrasebook.Program.refuse usage
    | .ok request => Phrasebook.Program.execute request
  return UInt32.ofNat code
