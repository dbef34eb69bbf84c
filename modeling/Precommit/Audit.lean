import Precommit.Check
import Precommit.CommitMessage
import Precommit.Text.Utf8

/-!
# Audits

An audit runs all checks over each listed file that is scannable and can be read, in
the order of the list, and then looks at the commit message if there is one.
-/

namespace Precommit

namespace Auditor

/-- The findings in a text under the given path. Any of the usual line ends will do. -/
def textFindings (auditor : Auditor) (path : String) (text : List Char) : List Finding :=
  let lines := Text.lines (Text.universalBreaks text)
  Check.all.flatMap fun check => check.findings auditor path lines

def fileFindings (auditor : Auditor) (path : String) (content : Bytes) : List Finding :=
  auditor.textFindings path (Utf8.decodeLossy content)

def messageFindings (auditor : Auditor) (message : Option String) : List Finding :=
  match message with
  | some message => CommitMessage.findings auditor.rules message
  | none => []

/-- The listed files that are scannable and can be read, with their contents. -/
def readable (auditor : Auditor) (read? : String → Option Bytes) (paths : List String) :
    List (String × Bytes) :=
  (paths.filter auditor.classifier.isScannable).filterMap fun path =>
    (read? path).map fun content => (path, content)

/-- Audit the listed files and the commit message. -/
def audit (auditor : Auditor) (read? : String → Option Bytes) (paths : List String)
    (message : Option String) : AuditResult :=
  let files := auditor.readable read? paths
  { filesScanned := files.length
    findings :=
      files.flatMap (fun (path, content) => auditor.fileFindings path content) ++
        auditor.messageFindings message }

end Auditor

end Precommit
