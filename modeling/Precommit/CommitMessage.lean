import Precommit.Rule.Set

/-!
# Checking commit messages

A message is judged by its subject, the first line of the trimmed message. Four
tests look at the subject, each on its own, and a blank message has a finding of its
own instead.
-/

namespace Precommit

namespace CommitMessage

/-- The subject of a message: what comes before the first line feed once it is trimmed. -/
def subject (message : String) : Line :=
  (Text.trim message.toList).takeWhile (· != '\n')

def finding (detail : String) : Finding where
  label := .commitMessage
  file := Finding.commitFile
  line := 1
  detail := detail

/-- The subject is too long. -/
def lengthFindings (rules : RuleSet) (subject : Line) : List Finding :=
  if rules.maxSubjectLength < subject.length then
    [finding ("First line exceeds " ++ toString rules.maxSubjectLength ++ " characters (" ++
      toString subject.length ++ " chars)")]
  else []

/-- The subject is not a type, a scope and a description. -/
def formatFindings (rules : RuleSet) (subject : Line) : List Finding :=
  if rules.commitSubject.isMatch subject then []
  else
    [finding ("Does not match format: type(scope): description — got: " ++ String.ofList subject)]

/-- The subject ends like a sentence. -/
def periodFindings (subject : Line) : List Finding :=
  if subject.getLast? = some '.' then [finding "Description must not end with a period"] else []

/-- The subject contains a forbidden phrase, of which the first in the table is named. -/
def phraseFindings (rules : RuleSet) (subject : Line) : List Finding :=
  match rules.forbiddenPhrases.firstMatch? subject with
  | some rule => [finding ("Contains forbidden attribution phrase: " ++ rule.source)]
  | none => []

def findings (rules : RuleSet) (message : String) : List Finding :=
  if (Text.trim message.toList).isEmpty then [finding "Empty commit message"]
  else
    let subject := subject message
    lengthFindings rules subject ++ formatFindings rules subject ++ periodFindings subject ++
      phraseFindings rules subject

end CommitMessage

end Precommit
