import Precommit.Pattern.Literal
import Precommit.Policy.Basic
import Precommit.Rule.Builtin

/-!
# The rules of a policy

A policy adds phrases to the built-in ones and determines the grammar of commit
subjects. Types and scopes are literal texts, so only the added phrases can fail to
be read.
-/

namespace Precommit

namespace CommitPolicy

/-- One of the given texts, as a pattern text. -/
def oneOf (texts : List String) : List Char :=
  List.intercalate ['|'] (texts.map fun text => Pattern.escape text.toList)

/-- The pattern text of a commit subject: a type, a scope in parentheses and a description. -/
def subjectText (policy : CommitPolicy) : String :=
  String.ofList
    ("^(?:".toList ++ oneOf policy.types ++ ")\\((?:".toList ++ oneOf policy.scopes ++
      ")\\): [a-z].*$".toList)

end CommitPolicy

/-- All rules that an audit applies. -/
structure RuleSet where
  forbiddenPhrases : RuleTable
  unwrapCandidate : Pattern
  unwrapFalsePositive : Pattern
  debugCalls : RuleTable
  bannedApis : RuleTable
  secrets : RuleTable
  secretFalsePositive : Pattern
  commitSubject : Pattern
  /-- The most characters of a commit subject. -/
  maxSubjectLength : Nat
deriving DecidableEq, Repr

/-- Changes to the four tables. -/
structure Adjustments where
  forbiddenPhrases : TableAdjustment := {}
  debugCalls : TableAdjustment := {}
  bannedApis : TableAdjustment := {}
  secrets : TableAdjustment := {}
deriving DecidableEq, Repr

namespace RuleSet

/-- The texts of the forbidden phrases, the built-in ones first. -/
def phraseTexts (policy : Policy) : List RuleText :=
  Builtin.forbiddenPhrases ++ policy.rules.extraForbiddenPhrases.map .forbiddenPhrase

/-- The rules of a policy, with a limit to the size of their patterns unless it is `none`. -/
def ofPolicy (policy : Policy) (limit : Option Nat := some Pattern.sizeLimit) :
    Except SetupError RuleSet := do
  let forbiddenPhrases ←
    RuleTable.ofTexts limit "forbidden_phrases" .first true (phraseTexts policy)
  let debugCalls ← RuleTable.ofTexts limit "debug_calls" .first false Builtin.debugCalls
  let bannedApis ← RuleTable.ofTexts limit "banned_apis" .every false Builtin.bannedApis
  let secrets ← RuleTable.ofTexts limit "secrets" .first false Builtin.secrets
  pure
    { forbiddenPhrases := forbiddenPhrases
      unwrapCandidate := ← Rule.readPattern limit "force_unwrap" false Builtin.unwrapCandidate
      unwrapFalsePositive :=
        ← Rule.readPattern limit "force_unwrap" false Builtin.unwrapFalsePositive
      debugCalls := debugCalls
      bannedApis := bannedApis
      secrets := secrets
      secretFalsePositive := ← Rule.readPattern limit "secrets" false Builtin.secretFalsePositive
      commitSubject := ← Rule.readPattern limit "commit_subject" false policy.commit.subjectText
      maxSubjectLength := policy.commit.maxSubjectLength }

/-- The rules after changes to the tables. -/
def adjust (rules : RuleSet) (adjustments : Adjustments) : RuleSet :=
  { rules with
    forbiddenPhrases := rules.forbiddenPhrases.adjust adjustments.forbiddenPhrases
    debugCalls := rules.debugCalls.adjust adjustments.debugCalls
    bannedApis := rules.bannedApis.adjust adjustments.bannedApis
    secrets := rules.secrets.adjust adjustments.secrets }

end RuleSet

end Precommit
