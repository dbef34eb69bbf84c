import Precommit.Report.Groups

/-!
# Reports for people

The text report is printed; the markdown report can be written to a file.
-/

namespace Precommit

namespace Report

def verdict (result : AuditResult) : String :=
  if result.passed then "PASS" else "FAIL"

/-- What the verdict means for the commit. -/
def commitStatus (result : AuditResult) : String :=
  if result.passed then "COMMIT ALLOWED" else "COMMIT BLOCKED"

/-- The line of a finding in the text report. -/
def textEntry (finding : Finding) : String :=
  "    " ++ finding.file ++ ":" ++ toString finding.line ++ " — " ++ finding.detail

def textGroup (group : Group) : List String :=
  ("  " ++ group.1) :: group.2.map textEntry ++ [""]

def textLines (result : AuditResult) : List String :=
  ["PRE-COMMIT AUDIT: " ++ verdict result,
    "  Scanned: " ++ toString result.filesScanned ++ " files",
    "  Violations: " ++ toString result.findings.length] ++
    (if result.passed then [] else "" :: (groups result.findings).flatMap textGroup) ++
    ["  Status: " ++ commitStatus result]

/-- The text report, without a line feed at its end. -/
def text (result : AuditResult) : String :=
  String.intercalate "\n" (textLines result)

/-- The line of a finding in the markdown report. -/
def markdownEntry (finding : Finding) : String :=
  "- `" ++ finding.file ++ ":" ++ toString finding.line ++ "`: " ++ finding.detail ++ "\n"

def markdownGroup (group : Group) : String :=
  "\n## " ++ group.1 ++ "\n\n" ++ String.join (group.2.map markdownEntry)

def markdown (result : AuditResult) : String :=
  "# Pre-commit audit: " ++ verdict result ++ "\n\n" ++
    "Scanned **" ++ toString result.filesScanned ++ "** file(s), **" ++
    toString result.findings.length ++ "** violation(s)\n" ++
    String.join ((groups result.findings).map markdownGroup)

end Report

end Precommit
