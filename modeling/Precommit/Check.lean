import Precommit.Classifier
import Precommit.Rule.Set

/-!
# Checks of files

Every check has the same shape: a condition on the path, a condition on the line and
what it reports for a line that meets both. `Check.findings` runs one check over the
lines of a file, so its findings come in the order of the lines, and those of one
line in the order of the rules.
-/

namespace Precommit

/-- Everything an audit consults besides the files. -/
structure Auditor where
  rules : RuleSet
  classifier : Classifier
  /-- The most characters of a line that a finding quotes. -/
  excerptLength : Nat

namespace Auditor

/--
The auditor of a policy, with a limit to the size of patterns and globs unless it is `none`.
The rules are read before the globs.
-/
def ofPolicy (policy : Policy) (limit : Option Nat := some Pattern.sizeLimit) :
    Except SetupError Auditor := do
  let rules ← RuleSet.ofPolicy policy limit
  let classifier ← Classifier.ofPolicy policy.scan limit
  pure
    { rules := rules
      classifier := classifier
      excerptLength := policy.scan.excerptLength }

/-- The auditor after changes to the rule tables. -/
def adjust (auditor : Auditor) (adjustments : Adjustments) : Auditor :=
  { auditor with rules := auditor.rules.adjust adjustments }

end Auditor

/-- The checks of a file. -/
inductive Check
  /-- Forbidden phrases, in all but policy documents. -/
  | protocolZero
  /-- Values unwrapped by force, in source files. -/
  | forceUnwrap
  /-- Diagnostic output outside of debug blocks, in source files other than tests. -/
  | debugArtifact
  /-- Deprecated and banned interfaces, in source files. -/
  | bannedApi
  /-- Secrets, in all but policy documents and exempt files. -/
  | secretLeakage
deriving DecidableEq, Repr

namespace Check

/-- The checks in the order in which they run. -/
def all : List Check :=
  [.protocolZero, .forceUnwrap, .debugArtifact, .bannedApi, .secretLeakage]

/-- Characters before an exclamation mark that make it an operator of what follows. -/
def operatorContext : List Char :=
  [' ', '\t', '(', '{', '[', ',', '=', ':']

/--
Whether the line unwraps a value by force. Comments and lines with a false alarm are
left alone; otherwise some exclamation mark has to stand after an operand, and the
first one of the line decides.
-/
def isForceUnwrap (rules : RuleSet) (line : Line) : Bool :=
  !line.isComment && !rules.unwrapFalsePositive.isMatch line &&
    rules.unwrapCandidate.isMatch line &&
    match line.dropWhile (· != '!') with
    | [] => false
    | _ :: after =>
        match (line.takeWhile (· != '!')).getLast? with
        | none => false
        | some previous => !operatorContext.contains previous && after.head? != some '='

def appliesTo (check : Check) (classifier : Classifier) (path : String) : Bool :=
  match check with
  | .protocolZero => !classifier.isGovernanceFile path
  | .forceUnwrap => classifier.isSourceFile path
  | .debugArtifact => classifier.isSourceFile path && !classifier.isTestFile path
  | .bannedApi => classifier.isSourceFile path
  | .secretLeakage => !classifier.isGovernanceFile path && !classifier.isSecretExempt path

/-- Whether the check looks at a line, which may be inside a debug block. -/
def considers (check : Check) (rules : RuleSet) (insideDebug : Bool) (line : Line) : Bool :=
  match check with
  | .protocolZero => true
  | .forceUnwrap => true
  | .debugArtifact => !insideDebug && !line.isComment
  | .bannedApi => !line.isComment
  | .secretLeakage => !rules.secretFalsePositive.isMatch line

/-- What the check reports for a line that it looks at: labels and details. -/
def reports (check : Check) (auditor : Auditor) (line : Line) : List (Label × String) :=
  match check with
  | .protocolZero =>
      (auditor.rules.forbiddenPhrases.firing line).map fun rule =>
        (rule.label, rule.message ++ ": " ++ rule.source)
  | .forceUnwrap =>
      if isForceUnwrap auditor.rules line then
        [(.forceUnwrap, "Force unwrap operator detected")]
      else []
  | .debugArtifact =>
      (auditor.rules.debugCalls.firing line).map fun rule =>
        (rule.label, rule.message ++ ": " ++
          String.ofList (Text.excerpt auditor.excerptLength (Text.trim line)))
  | .bannedApi =>
      (auditor.rules.bannedApis.firing line).map fun rule => (rule.label, rule.message)
  | .secretLeakage =>
      (auditor.rules.secrets.firing line).map fun rule => (rule.label, rule.message)

def lineFindings (check : Check) (auditor : Auditor) (path : String) (number : Nat)
    (insideDebug : Bool) (line : Line) : List Finding :=
  if check.considers auditor.rules insideDebug line then
    (check.reports auditor line).map fun (label, detail) =>
      { label := label, file := path, line := number, detail := detail }
  else []

/-- The findings of the check in the lines of a file. -/
def findings (check : Check) (auditor : Auditor) (path : String) (lines : List Line) :
    List Finding :=
  if check.appliesTo auditor.classifier path then
    ((Text.numbered lines).zip (Line.insideDebug lines)).flatMap
      fun ((number, line), insideDebug) =>
        check.lineFindings auditor path number insideDebug line
  else []

end Check

end Precommit
