import Precommit.Directory
import Precommit.Report.Json
import Precommit.Report.Text

/-!
# Writing reports

The extension of the output path decides the form of the report.
-/

namespace Precommit

/-- What can go wrong when a report is written. -/
inductive OutputError
  /-- There is no form of report for the path. -/
  | unsupportedExtension (path : String)
  /-- The file cannot be written. -/
  | unwritable (path : String)
deriving DecidableEq, Repr

namespace OutputError

def message : OutputError → String
  | .unsupportedExtension path => "Output file must end with .md or .json: " ++ path
  | .unwritable path => "write output " ++ path

end OutputError

namespace Report

def hasEnding (ending path : String) : Bool :=
  ending.toList.isSuffixOf path.toList

/-- Whether there is a form of report for the path. -/
def isOutputPath (path : String) : Bool :=
  hasEnding ".md" path || hasEnding ".json" path

/-- The report in the form that the path asks for. -/
def forPath? (path : String) (result : AuditResult) : Option String :=
  if hasEnding ".json" path then some (json result)
  else if hasEnding ".md" path then some (markdown result)
  else none

def write (path : String) (result : AuditResult) (directory : Directory) :
    Except OutputError Directory :=
  match forPath? path result with
  | none => .error (.unsupportedExtension path)
  | some content =>
      match directory.store? path (Utf8.encode content.toList) with
      | none => .error (.unwritable path)
      | some directory => .ok directory

end Report

end Precommit
