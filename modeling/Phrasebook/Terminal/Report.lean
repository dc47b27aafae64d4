import Phrasebook.Config.Discovery
import Phrasebook.Run.Report
import Phrasebook.Scan.Files
import Phrasebook.Terminal.Style

/-!
Reports as they are printed.
-/

namespace Phrasebook.Terminal

/-- What is printed as output and what beside it. -/
structure Printed where
  out : String := ""
  err : String := ""
deriving DecidableEq, Repr

instance : Append Printed := ⟨fun a b => ⟨a.out ++ b.out, a.err ++ b.err⟩⟩

instance : Inhabited Printed := ⟨{}⟩

/-- A line of output. -/
def outLine (text : String) : Printed := { out := text ++ "\n" }

/-- A line beside the output. -/
def errLine (text : String) : Printed := { err := text ++ "\n" }

/-- What is printed for a list, one after the other. -/
def printAll (print : α → Printed) : List α → Printed
  | [] => {}
  | x :: xs => print x ++ printAll print xs

/-- How a report is to be printed. -/
structure Manner where
  verbose : Bool := false
  color : Bool := false
deriving DecidableEq, Repr

namespace Manner

def paint (m : Manner) (s : Style) (text : String) : String := Terminal.paint m.color s text

def successMark (m : Manner) : String := m.paint green "✓"

def failureMark (m : Manner) : String := m.paint red "✘"

def warningLabel (m : Manner) : String := m.paint (bold ++ yellow) "warning:"

def failureLabel (m : Manner) : String := m.paint (bold ++ red) "Failed:"

end Manner

/-- A number of keys in words. -/
def keysText (n : Nat) : String := n.repr ++ (if n = 1 then " key" else " keys")

def printStatus (m : Manner) (applied : Bool) (display : String) : FileStatus → Printed
  | .translated keys =>
      let label :=
        if applied then m.successMark ++ " " ++ m.paint green "Translated:"
        else m.paint yellow "Would translate:"
      outLine (label ++ " " ++ display ++ " (" ++ keysText keys ++ ")")
  | .failed reason =>
      outLine (m.failureMark ++ " " ++ m.failureLabel ++ " " ++ display ++ ": " ++ reason)
  | .skipped reason =>
      if m.verbose then
        outLine (m.paint dimmed ("  skipped " ++ display ++ " (" ++ reason.label ++ ")"))
      else {}

def printFile (m : Manner) (applied : Bool) (f : FileReport) : Printed :=
  printStatus m applied f.display f.status ++
    printAll (fun d => errLine (m.warningLabel ++ " " ++ f.display ++ ": " ++ d.message))
      f.diagnostics

def printWritten (m : Manner) (c : Catalog.Written) : Printed :=
  outLine (m.successMark ++ " Wrote " ++ c.path ++ " (" ++ keysText c.keys ++ ")")

def printCatalogs (m : Manner) (n : NamespaceReport) : Printed :=
  (match n.catalogError with
   | none => {}
   | some reason =>
       outLine (m.failureMark ++ " " ++ m.failureLabel ++ " catalog of " ++ n.name ++ ": " ++ reason))
    ++ if m.verbose then printAll (printWritten m) n.written else {}

def printInaccessible (m : Manner) (count : Nat) : Printed :=
  if count = 0 then {}
  else
    errLine (m.warningLabel ++ " " ++ count.repr ++ " path(s) skipped due to access errors" ++
      (if m.verbose then "" else " (use -v for details)"))

/-- The line that counts what was translated. -/
def countsLine (label : String) (r : Report) : Printed :=
  outLine (label ++ " " ++ r.translatedCount.repr ++ " file(s), " ++ keysText r.keyCount ++
    " into " ++ r.catalogCount.repr ++ " catalog file(s).")

def printTranslated (m : Manner) (r : Report) : Printed :=
  if r.applied then countsLine (m.paint (bold ++ green) "Translated") r
  else if r.translatedCount = 0 then {}
  else
    countsLine (m.paint (bold ++ yellow) "Would translate") r ++
      outLine ("Run with " ++ m.paint cyan "--apply" ++
        " to rewrite these files and write the catalogs.")

def printFailed (m : Manner) (count : Nat) : Printed :=
  if count = 0 then {}
  else
    outLine (m.failureMark ++ " " ++ count.repr ++
      " file(s) could not be migrated and were left untouched.")

def printSummary (m : Manner) (r : Report) : Printed :=
  if r.translatedCount = 0 && r.failedCount = 0 then
    outLine (m.successMark ++ " " ++ m.paint green
      ("Checked " ++ r.files.length.repr ++ " file(s) - nothing to translate"))
  else printTranslated m r ++ printFailed m r.failedCount

def printObserved (m : Manner) (files : List String) : Printed :=
  if files.isEmpty then {}
  else
    outLine "" ++
      outLine (m.paint bold "note:" ++ " The following files may contain observer errors:") ++
      printAll (fun f => outLine ("  " ++ f)) files

/-- Prints what a run did. -/
def printReport (m : Manner) (r : Report) : Printed :=
  printAll (printFile m r.applied) r.files ++ printAll (printCatalogs m) r.namespaces ++
    printInaccessible m r.inaccessibleCount ++ printSummary m r ++ printObserved m r.observedFiles

/-- Prints what a scan had to tell, if all is to be told. -/
def printWarnings (m : Manner) (warnings : List Scan.Warning) : Printed :=
  if m.verbose then printAll (fun w => errLine (m.warningLabel ++ " " ++ w.message)) warnings
  else {}

/-- Prints whether a configuration file was created. -/
def printCreation (m : Manner) (created : Bool) (error : Option String) : Printed :=
  match error with
  | some e => errLine ("Error: " ++ e)
  | none =>
      if created then outLine (m.successMark ++ " " ++ m.paint green ("Created " ++ Config.fileName))
      else {}

end Phrasebook.Terminal
