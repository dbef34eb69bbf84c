/-!
# Findings

A finding is one violation of the policy at one line of a file. The commit message
counts as a file with a name of its own.
-/

namespace Precommit

/-- The code and the display name of the check behind a finding. -/
structure Label where
  id : String
  name : String
deriving DecidableEq, Repr

namespace Label

/-- A forbidden phrase in a file. -/
def protocolZero : Label := ⟨"PZ-001", "Protocol Zero"⟩

def forceUnwrap : Label := ⟨"FU-001", "Force Unwrap"⟩

/-- Diagnostic output left in the code. -/
def debugArtifact : Label := ⟨"DA-001", "Debug Artifact"⟩

def deprecatedApi : Label := ⟨"DP-001", "Deprecated API"⟩

/-- A part of the Combine framework. -/
def combineUsage : Label := ⟨"CB-001", "Combine Usage"⟩

/-- A secret in plain text. -/
def secretLeakage : Label := ⟨"SL-001", "Secret Leakage"⟩

def commitMessage : Label := ⟨"CC-001", "Commit Message"⟩

end Label

/-- A violation of the policy. -/
structure Finding where
  label : Label
  /-- The path of the file as it was listed. -/
  file : String
  /-- The number of the line, from one. -/
  line : Nat
  detail : String
deriving DecidableEq, Repr

namespace Finding

/-- The name that stands for the commit message in place of a file. -/
def commitFile : String := "<commit>"

end Finding

/-- What an audit finds in all. -/
structure AuditResult where
  /-- The number of listed files that were read. -/
  filesScanned : Nat := 0
  findings : List Finding := []
deriving DecidableEq, Repr

namespace AuditResult

/-- An audit passes if it finds nothing. -/
def passed (result : AuditResult) : Bool :=
  result.findings.isEmpty

/-- The exit status of a run with this result. -/
def exitCode (result : AuditResult) : Nat :=
  if result.passed then 0 else 1

end AuditResult

end Precommit
