import Precommit.Run

/-!
# The program

The outer layer of a run: it fetches what the library asks for and prints what the
library answers. The version control is not started from here; its listing, one path
on each line, is expected on standard input when the arguments ask for staged or
tracked files.
-/

namespace Precommit

namespace Program

/-- The content of a file, if it can be read. -/
def read? (path : String) : IO (Option Bytes) := do
  try
    pure (some (← IO.FS.readBinFile path).toList)
  catch _ => pure none

/-- The code with which the system refuses to read a directory. -/
def directoryCode : UInt32 := 21

/-- What is found at a path; what exists and cannot be read counts as a directory. -/
def lookup? (path : String) : IO (Option Entry) := do
  try
    pure (some (.file (← IO.FS.readBinFile path).toList))
  catch
    | .inappropriateType _ code _ =>
        pure (if code = directoryCode then some (.folder .empty) else none)
    | .permissionDenied .. => pure (some (.folder .empty))
    | _ => pure none

/-- The listing that the arguments ask for, from standard input. -/
def listing (source : FileSource) : IO VersionControl := do
  match source with
  | .file _ => pure {}
  | _ =>
      let output ← (← IO.getStdin).readToEnd
      let outcome : CommandOutcome := { status := 0, output := Utf8.encode output.toList }
      pure { staged := some outcome, tracked := some outcome }

/-- Print a message and end with the given status. -/
def fail (message : String) (status : UInt32) : IO UInt32 := do
  IO.eprintln message
  pure status

def audit (settings : CommandLine.Settings) (auditor : Auditor) : IO UInt32 := do
  let versionControl ← listing settings.source
  let paths := settings.source.paths auditor.classifier versionControl .empty
  let contents ← paths.mapM fun path => do pure (path, ← read? path)
  let result :=
    auditor.audit (fun path => (contents.lookup path).join) paths settings.commitMessage
  IO.println (Report.text result)
  match settings.outputPath with
  | none => pure (UInt32.ofNat result.exitCode)
  | some path =>
      match Report.forPath? path result with
      | none => fail (OutputError.unsupportedExtension path).message 1
      | some content =>
          try
            IO.FS.writeFile path content
            pure (UInt32.ofNat result.exitCode)
          catch _ => fail (OutputError.unwritable path).message 1

/-- Run with the arguments after the program name. -/
def run (arguments : List String) : IO UInt32 := do
  match CommandLine.parse arguments (← IO.getEnv "COMMIT_AUDIT_LOG") with
  | .error .helpAsked => IO.print Run.helpText; pure 0
  | .error .versionAsked => IO.print Run.versionText; pure 0
  | .error stop => fail (stop.valueMessage?.getD Run.helpText) 2
  | .ok settings =>
      let policy := Policy.ofEntry settings.policyPath (← lookup? settings.policyPath)
      match policy.bind (Auditor.ofPolicy ·) with
      | .error error => fail error.message 1
      | .ok auditor => audit settings auditor

end Program

end Precommit

def main (arguments : List String) : IO UInt32 :=
  Precommit.Program.run arguments
