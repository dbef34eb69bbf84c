import Precommit.Finding
import Precommit.Pattern.Compile
import Precommit.Pattern.Search
import Precommit.SetupError
import Precommit.Text.Line

/-!
# Rule tables

A rule is a pattern together with what a match is reported as. A table lists rules in
order of precedence and says whether a line is reported for the first matching rule
only or for every one.
-/

namespace Precommit

/-- How many rules of a table may fire on one line. -/
inductive MatchMode
  /-- The first rule that matches. -/
  | first
  /-- Every rule that matches. -/
  | every
deriving DecidableEq, Repr

/-- A rule before its pattern is read. -/
structure RuleText where
  /-- The pattern as it is written. -/
  source : String
  label : Label
  /-- The detail of a finding, or its beginning where the check adds what matched. -/
  message : String
deriving DecidableEq, Repr

/-- A rule with its pattern. -/
structure Rule extends RuleText where
  pattern : Pattern
deriving DecidableEq, Repr

namespace Rule

/-- Read the pattern of a table, whose size may be limited. -/
def readPattern (limit : Option Nat) (table : String) (caseless : Bool) (source : String) :
    Except SetupError Pattern :=
  match Pattern.compile? limit { caseless := caseless } source.toList with
  | some pattern => .ok pattern
  | none => .error (.invalidPattern table source)

/-- Read a rule of a table. -/
def ofText (limit : Option Nat) (table : String) (caseless : Bool) (text : RuleText) :
    Except SetupError Rule := do
  pure { text with pattern := ← readPattern limit table caseless text.source }

/-- Whether the rule applies to the line. -/
def isMatch (rule : Rule) (line : Line) : Bool :=
  rule.pattern.isMatch line

end Rule

/-- Rules in order of precedence. -/
structure RuleTable where
  mode : MatchMode
  rules : List Rule
deriving DecidableEq, Repr

/-- A change to a table as a whole: another mode, or one message for all of its rules. -/
structure TableAdjustment where
  mode : Option MatchMode := none
  message : Option String := none
deriving DecidableEq, Repr

namespace RuleTable

/-- Read a table; the first pattern that cannot be read is reported. -/
def ofTexts (limit : Option Nat) (table : String) (mode : MatchMode) (caseless : Bool)
    (texts : List RuleText) : Except SetupError RuleTable := do
  pure { mode := mode, rules := ← texts.mapM (Rule.ofText limit table caseless) }

/-- The first rule that applies to the line. -/
def firstMatch? (table : RuleTable) (line : Line) : Option Rule :=
  table.rules.find? (·.isMatch line)

/-- The rules that are reported for the line. -/
def firing (table : RuleTable) (line : Line) : List Rule :=
  match table.mode with
  | .first => (table.firstMatch? line).toList
  | .every => table.rules.filter (·.isMatch line)

/-- The table after a change. -/
def adjust (table : RuleTable) (adjustment : TableAdjustment) : RuleTable where
  mode := adjustment.mode.getD table.mode
  rules := table.rules.map fun rule =>
    { rule with message := adjustment.message.getD rule.message }

end RuleTable

end Precommit
