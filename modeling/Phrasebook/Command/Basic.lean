import Phrasebook.Command.Arguments
import Phrasebook.Run.Migrate
import Phrasebook.Terminal.Report

/-!
The commands: what they do to a workspace, what they print, and how they end.
-/

namespace Phrasebook.Command

open Terminal (Printed Manner)

/-- The lines of the help text. -/
def helpLines : List String :=
  ["Migrate React component directories to react-i18next: " ++
    "extract text into JSON catalogs and rewrite components",
   "",
   "Usage: i18nize [COMMAND]",
   "",
   "Commands:",
   "  migrate  Extract component text into JSON catalogs and rewrite components to react-i18next",
   "  init     Initialize a new .i18nizerc.json configuration file",
   "  help     Print this message or the help of the given subcommand(s)",
   "",
   "Options:",
   "  -h, --help     Print help",
   "  -V, --version  Print version"]

/-- The help text. -/
def helpText : String := String.join (helpLines.map (· ++ "\n"))

/-- The name and version of the program. -/
def versionText : String := "i18nize 0.1.0\n"

/-- What is said about a command line that cannot be run. -/
def Usage.text : Usage → String
  | .help => helpText
  | .version => versionText
  | .unknownCommand => "error: unrecognized subcommand\n"
  | .unknownArgument => "error: unexpected argument found\n"
  | .invalidValue => "error: a value is required\n"
  | .repeated => "error: an argument cannot be used multiple times\n"
  | .unexpectedValue => "error: unexpected value found\n"

/-- How a command ends. -/
inductive Status where
  | success
  /-- The command was run, but something failed. -/
  | failure
  /-- The command could not be run. -/
  | error
deriving DecidableEq, Repr

def Status.exitCode : Status → Nat
  | .success => 0
  | .failure => 1
  | .error => 2

/-- What a command did. -/
inductive Summary where
  | migration (report : Report)
  | creation (created : Bool) (error : Option String)
deriving DecidableEq, Repr

/-- The number of failures. -/
def Summary.errorCount : Summary → Nat
  | .migration report => report.failureCount
  | .creation _ error => if error.isSome then 1 else 0

def Summary.status (s : Summary) : Status := if s.errorCount > 0 then .failure else .success

def Summary.print (m : Manner) : Summary → Printed
  | .migration report => Terminal.printReport m report
  | .creation created error => Terminal.printCreation m created error

/-- Why a command cannot be run. -/
inductive CommandError where
  | config (cause : Config.LoadError)
  | run (cause : RunError)
  | write (path : String) (cause : AccessError)
deriving DecidableEq, Repr

def CommandError.message : CommandError → String
  | .config cause => cause.message
  | .run cause => cause.message
  | .write path cause => "Failed to write file: " ++ path ++ ": " ++ cause.message

/-- What a command leaves behind. -/
structure Ended where
  workspace : Workspace
  printed : Printed
  status : Status
deriving DecidableEq, Repr

def ended (m : Manner) (w : Workspace) (before : Printed) (s : Summary) : Ended :=
  ⟨w, before ++ s.print m, s.status⟩

def failed (w : Workspace) (before : Printed) (e : CommandError) : Ended :=
  ⟨w, before ++ Terminal.errLine ("Error: " ++ e.message), .error⟩

/-- The directory that a command starts from. -/
def startDirectory : String := "."

/-- Says that no file gives the configuration, if all is to be told. It is said before what was
asked for is checked. -/
def printDefaultNote (w : Workspace) (start : String) (o : Overrides) : Printed :=
  match Config.load w start with
  | .error _ => {}
  | .ok loaded =>
      if o.verbose && !loaded.fromFile then
        Terminal.errLine ("Note: No " ++ Config.fileName ++ " found, using default configuration")
      else {}

/-- Migrates a project. -/
def runMigrate (e : Engine) (color : Bool) (o : Overrides) (w : Workspace) : Ended :=
  let m : Manner := { verbose := o.verbose, color }
  let note := printDefaultNote w startDirectory o
  match Settings.load w startDirectory o with
  | .error cause => failed w note (.config cause)
  | .ok s =>
      match migrate e s w with
      | .error cause => failed w note (.run cause)
      | .ok done =>
          ended m done.workspace (note ++ Terminal.printWarnings m done.warnings)
            (.migration done.report)

/-- Creates a configuration file with what holds without one. -/
def runInit (color : Bool) (w : Workspace) : Ended :=
  let path := Path.join startDirectory Config.fileName
  if w.has path then
    ended { color } w {} (.creation false (some (Config.fileName ++ " already exists")))
  else
    match w.putFile path (.text Config.defaultText) with
    | .error cause => failed w {} (.write path cause)
    | .ok w => ended { color } w {} (.creation true none)

/-- Runs what a command line asks for; if it asks for nothing, the help text is printed. -/
def run (e : Engine) (color : Bool) (w : Workspace) : Option Request → Ended
  | none => ⟨w, { out := helpText }, .success⟩
  | some (.migrate o) => runMigrate e color o w
  | some .init => runInit color w

end Phrasebook.Command
