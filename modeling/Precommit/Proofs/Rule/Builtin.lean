import Precommit.Proofs.Pattern.PlanRoom
import Precommit.Proofs.Rule.Assembly
import Precommit.Proofs.Rule.Subject
import Precommit.Proofs.Text.Utf8

/-!
# Reading the built-in rules

All built-in patterns can be read and keep to the size limit with room to spare. So
the rules of a policy can fail to be read for two reasons only: a phrase that the
policy adds, or a commit subject with so many types and scopes that its pattern is too
large.
-/

namespace Precommit

open Pattern

namespace Pattern

/-- The text is a pattern, and the automata for it find room within the size limit. -/
def isRoomyText (caseless : Bool) (text : String) : Bool :=
  (Expression.parse? { caseless := caseless } text.toList).any fun expression =>
    expression.plan.isRoomy sizeLimit false

theorem exists_compile_of_isRoomyText {caseless : Bool} {text : String}
    (roomy : isRoomyText caseless text = true) :
    ∃ pattern, compile? (some sizeLimit) { caseless := caseless } text.toList = some pattern := by
  unfold isRoomyText at roomy
  cases parsed : Expression.parse? { caseless := caseless } text.toList with
  | none =>
      rw [parsed] at roomy
      cases roomy
  | some expression =>
      rw [parsed] at roomy
      have fits : expression.fits (some sizeLimit) = true := Plan.fits_of_isRoomy roomy
      refine ⟨expression.pattern, ?_⟩
      rw [compile?, parsed, Option.filter_some, if_pos fits]
      rfl

end Pattern

namespace Builtin

/-- All built-in texts are patterns that keep to the size limit. -/
theorem roomy_texts :
    (forbiddenPhrases.all fun text => isRoomyText true text.source) = true ∧
    (debugCalls.all fun text => isRoomyText false text.source) = true ∧
    (bannedApis.all fun text => isRoomyText false text.source) = true ∧
    (secrets.all fun text => isRoomyText false text.source) = true ∧
    ([unwrapCandidate, unwrapFalsePositive, secretFalsePositive].all (isRoomyText false)) =
      true := by
  simp only [isRoomyText, Utf8.toList_eq_decode, List.all_cons, List.all_nil]
  decide +kernel

end Builtin

namespace RuleTable

/-- A table can be read if all of its texts can. -/
theorem exists_lists {limit : Option Nat} {caseless : Bool} {texts : List RuleText}
    (each : ∀ text ∈ texts, ∃ pattern,
      compile? limit { caseless := caseless } text.source.toList = some pattern)
    (mode : MatchMode) :
    ∃ table : RuleTable, table.mode = mode ∧ table.Lists limit caseless texts := by
  have related : ∀ text ∈ texts, ∃ rule : Rule, rule.toRuleText = text ∧
      compile? limit { caseless := caseless } text.source.toList = some rule.pattern := by
    intro text member
    rcases each text member with ⟨pattern, compiled⟩
    exact ⟨⟨text, pattern⟩, rfl, compiled⟩
  rcases exists_forall₂ related with ⟨rules, lists⟩
  exact ⟨⟨mode, rules⟩, rfl, lists⟩

theorem exists_lists_of_roomy {caseless : Bool} {texts : List RuleText}
    (roomy : (texts.all fun text => isRoomyText caseless text.source) = true) (mode : MatchMode) :
    ∃ table : RuleTable, table.mode = mode ∧ table.Lists (some sizeLimit) caseless texts := by
  apply exists_lists
  intro text member
  exact exists_compile_of_isRoomyText (List.all_eq_true.1 roomy text member)

theorem Lists.exists_pattern {limit : Option Nat} {caseless : Bool} {texts : List RuleText}
    {table : RuleTable} (lists : table.Lists limit caseless texts) {text : RuleText}
    (member : text ∈ texts) :
    ∃ pattern, compile? limit { caseless := caseless } text.source.toList = some pattern := by
  rcases exists_of_mem_left lists member with ⟨rule, _, _, compiled⟩
  exact ⟨rule.pattern, compiled⟩

end RuleTable

namespace CommitPolicy

theorem compile?_subjectText_eq_some_iff {limit : Option Nat} {policy : CommitPolicy} :
    (∃ pattern, compile? limit {} policy.subjectText.toList = some pattern) ↔
      policy.subjectExpression.fits limit = true := by
  rw [compile?, parse?_subjectText]
  cases fits : policy.subjectExpression.fits limit <;> simp [Option.filter, fits]

end CommitPolicy

namespace RuleSet

theorem exists_ofPolicy_builtin : ∃ rules, ofPolicy {} = .ok rules := by
  rcases Builtin.roomy_texts with ⟨phrases, calls, apis, secrets, tests⟩
  have tests := List.all_eq_true.1 tests
  have roomySubject : (CommitPolicy.subjectExpression {}).plan.isRoomy sizeLimit false = true := by
    decide +kernel
  have subjectFits : (CommitPolicy.subjectExpression {}).fits (some sizeLimit) = true :=
    Plan.fits_of_isRoomy roomySubject
  rcases RuleTable.exists_lists_of_roomy phrases .first with
    ⟨phraseTable, phraseMode, phraseLists⟩
  rcases RuleTable.exists_lists_of_roomy calls .first with
    ⟨callTable, callMode, callLists⟩
  rcases RuleTable.exists_lists_of_roomy apis .every with
    ⟨apiTable, apiMode, apiLists⟩
  rcases RuleTable.exists_lists_of_roomy secrets .first with
    ⟨secretTable, secretMode, secretLists⟩
  rcases exists_compile_of_isRoomyText (tests Builtin.unwrapCandidate (by simp)) with
    ⟨candidate, candidate_eq⟩
  rcases exists_compile_of_isRoomyText (tests Builtin.unwrapFalsePositive (by simp)) with
    ⟨falsePositive, falsePositive_eq⟩
  rcases exists_compile_of_isRoomyText (tests Builtin.secretFalsePositive (by simp)) with
    ⟨harmless, harmless_eq⟩
  rcases CommitPolicy.compile?_subjectText_eq_some_iff.2 subjectFits with ⟨subject, subject_eq⟩
  exact ⟨⟨phraseTable, candidate, falsePositive, callTable, apiTable, secretTable, harmless,
    subject, CommitPolicy.maxSubjectLength {}⟩, ofPolicy_eq_ok_iff.2
    ⟨phraseMode, phraseLists, callMode, callLists, apiMode, apiLists, secretMode, secretLists,
      candidate_eq, falsePositive_eq, harmless_eq, subject_eq, rfl⟩⟩

/-- If the built-in rules can be read, then those of a policy can be read unless an added phrase
or the subject is at fault. -/
theorem Reads.exists_ofPolicy_iff {limit : Option Nat} {builtin : RuleSet}
    (reads : builtin.Reads limit {}) {policy : Policy} :
    (∃ rules, ofPolicy policy limit = .ok rules) ↔
      (∀ phrase ∈ policy.rules.extraForbiddenPhrases, ∃ pattern,
        compile? limit { caseless := true } phrase.toList = some pattern) ∧
      policy.commit.subjectExpression.fits limit = true := by
  simp only [ofPolicy_eq_ok_iff, ← CommitPolicy.compile?_subjectText_eq_some_iff]
  constructor
  · rintro ⟨rules, reads⟩
    refine ⟨?_, rules.commitSubject, reads.commitSubject⟩
    intro phrase member
    exact reads.phrases.exists_pattern
      (List.mem_append_right _ (List.mem_map_of_mem member))
  · rintro ⟨added, subject, compiled⟩
    have phrases : ∀ text ∈ phraseTexts policy, ∃ pattern,
        compile? limit { caseless := true } text.source.toList = some pattern := by
      intro text member
      rcases List.mem_append.1 member with member | member
      · exact reads.phrases.exists_pattern (List.mem_append_left _ member)
      · rcases List.mem_map.1 member with ⟨phrase, listed, rfl⟩
        exact added phrase listed
    rcases RuleTable.exists_lists phrases .first with ⟨table, mode, lists⟩
    exact ⟨{ builtin with
      forbiddenPhrases := table
      commitSubject := subject
      maxSubjectLength := policy.commit.maxSubjectLength },
      { reads with
        phraseMode := mode
        phrases := lists
        commitSubject := compiled
        maxSubjectLength := rfl }⟩

/-- The rules of a policy can be read unless an added phrase or the subject is at fault. -/
theorem exists_ofPolicy_iff {policy : Policy} :
    (∃ rules, ofPolicy policy = .ok rules) ↔
      (∀ phrase ∈ policy.rules.extraForbiddenPhrases, ∃ pattern,
        compile? (some sizeLimit) { caseless := true } phrase.toList = some pattern) ∧
      policy.commit.subjectExpression.fits (some sizeLimit) = true := by
  rcases exists_ofPolicy_builtin with ⟨builtin, read⟩
  exact (ofPolicy_eq_ok_iff.1 read).exists_ofPolicy_iff

end RuleSet

end Precommit
