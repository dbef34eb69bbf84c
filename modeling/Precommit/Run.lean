import Precommit.Audit
import Precommit.CommandLine
import Precommit.Policy.Load

/-!
# Whole runs

A run reads the arguments, loads the policy, lists the files, audits them and reports.
It stops at the first of these that fails, and prints nothing before the report. The
report is printed before it is written to a file, so a file that cannot be written
costs the exit status and not the report.
-/

namespace Precommit

/-- What a run finds around it. -/
structure Surroundings where
  /-- The log level of the environment. -/
  logLevel : Option String := none
  versionControl : VersionControl := {}
  directory : Directory := .empty

/-- What a run leaves behind. -/
structure RunOutcome where
  exitCode : Nat
  output : String
  directory : Directory

namespace Run

def versionText : String := "commit-audit 0.1.0\n"

def helpText : String :=
  "Pre-commit audit engine for repository governance enforcement\n\n" ++
    "Usage: commit-audit [OPTIONS] <--staged|--all|--file <PATH>>\n\n" ++
    "Options:\n" ++
    "      --staged             Audit staged files only (git diff --cached)\n" ++
    "      --all                Audit all tracked files in the repository\n" ++
    "      --file <PATH>        Audit a single file\n" ++
    "      --commit-msg <TEXT>  Commit message to validate\n" ++
    "      --config <CONFIG>    Path to policy config file (used only if it exists) " ++
    "[default: commit-audit.toml]\n" ++
    "      --output <PATH>      Also write results to a file (.md or .json)\n" ++
    "  -h, --help               Print help\n" ++
    "  -V, --version            Print version\n" ++
    "      --log-level <LEVEL>  Log level, such as info or debug [default: warn]\n"

/-- Print the report and write it to the output path if there is one. -/
def report (settings : CommandLine.Settings) (result : AuditResult) (directory : Directory) :
    RunOutcome :=
  let output := Report.text result ++ "\n"
  match settings.outputPath with
  | none => { exitCode := result.exitCode, output := output, directory := directory }
  | some path =>
      match Report.write path result directory with
      | .ok written => { exitCode := result.exitCode, output := output, directory := written }
      | .error _ => { exitCode := 1, output := output, directory := directory }

def prepare (settings : CommandLine.Settings) (directory : Directory) :
    Except SetupError Auditor := do
  Auditor.ofPolicy (← Policy.load directory settings.policyPath)

def withSettings (settings : CommandLine.Settings) (surroundings : Surroundings) : RunOutcome :=
  let directory := surroundings.directory
  match prepare settings directory with
  | .error _ => { exitCode := 1, output := "", directory := directory }
  | .ok auditor =>
      let paths :=
        settings.source.paths auditor.classifier surroundings.versionControl directory
      report settings (auditor.audit directory.content? paths settings.commitMessage) directory

end Run

/-- The run with the given arguments. -/
def run (arguments : List String) (surroundings : Surroundings) : RunOutcome :=
  match CommandLine.parse arguments surroundings.logLevel with
  | .ok settings => Run.withSettings settings surroundings
  | .error stop =>
      { exitCode := if stop.isUsageError then 2 else 0
        output :=
          match stop with
          | .versionAsked => Run.versionText
          | .helpAsked => Run.helpText
          | _ => ""
        directory := surroundings.directory }

end Precommit
