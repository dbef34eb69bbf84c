import Precommit.Proofs.Pattern.Composition
import Precommit.Proofs.Rule.Builtin

/-!
# The grammar of commit subjects

The pattern for commit subjects accepts a line exactly if the line is a type, a scope in
parentheses, a colon, a blank and a description that begins with a lower-case letter. The
types and scopes are taken literally, whatever characters they are made of.
-/

namespace Precommit

open Pattern

/-- A line of the form that the policy asks of commit subjects. -/
def CommitPolicy.Allows (policy : CommitPolicy) (line : Line) : Prop :=
  ∃ type ∈ policy.types, ∃ scope ∈ policy.scopes, ∃ initial description,
    'a' ≤ initial ∧ initial ≤ 'z' ∧
      line = type.toList ++ "(".toList ++ scope.toList ++ "): ".toList ++
        initial :: description

namespace CommitPolicy

variable {policy : CommitPolicy} {before stretch after : List Char}

/-- The patterns that a commit subject is put together from. -/
theorem pattern_subjectExpression (policy : CommitPolicy) :
    policy.subjectExpression.pattern =
      sequenceAll
        [.assertion .textStart, (Expression.literalChoice (policy.types.map String.toList)).pattern,
          (Expression.literal '(').pattern,
          (Expression.literalChoice (policy.scopes.map String.toList)).pattern,
          (Expression.literal ')').pattern, (Expression.literal ':').pattern,
          (Expression.literal ' ').pattern, .char (.range 'a' 'z'),
          star (.char (.complement (.single '\n'))), .assertion .textEnd] := by
  rw [subjectExpression, Expression.pattern_sequence]
  rfl

theorem acceptsEach_ending_iff :
    AcceptsEach [star (.char (.complement (.single '\n'))), .assertion .textEnd] before stretch
        after ↔
      '\n' ∉ stretch ∧ after = [] := by
  simp only [AcceptsEach, accepts_star_char_iff, accepts_assertion_iff,
    CharSet.contains_complement_single_iff, Assertion.holds_textEnd_iff]
  constructor
  · rintro ⟨left, _, rfl, others, _, _, rfl, ⟨atEnd, rfl⟩, rfl⟩
    refine ⟨fun feed => ?_, atEnd⟩
    rw [List.append_nil, List.append_nil] at feed
    exact others _ feed rfl
  · rintro ⟨noFeed, rfl⟩
    refine ⟨stretch, [], (List.append_nil stretch).symm, ?_, [], [], rfl, ⟨rfl, rfl⟩, rfl⟩
    exact fun character member same => noFeed (same ▸ member)

theorem accepts_subjectExpression_iff (types : policy.types ≠ []) (scopes : policy.scopes ≠ []) :
    Accepts policy.subjectExpression.pattern before stretch after ↔
      before = [] ∧ after = [] ∧ ∃ type ∈ policy.types, ∃ scope ∈ policy.scopes,
        ∃ initial description, 'a' ≤ initial ∧ initial ≤ 'z' ∧ '\n' ∉ description ∧
          stretch = type.toList ++ '(' :: (scope.toList ++ ')' :: ':' :: ' ' ::
            initial :: description) := by
  have types' : policy.types.map String.toList ≠ [] := mt List.map_eq_nil_iff.1 types
  have scopes' : policy.scopes.map String.toList ≠ [] := mt List.map_eq_nil_iff.1 scopes
  rw [pattern_subjectExpression, accepts_sequenceAll_iff, acceptsEach_assertion_cons_iff]
  simp only [Assertion.holds_textStart_iff, Expression.acceptsEach_literalChoice_cons_iff types',
    Expression.acceptsEach_literalChoice_cons_iff scopes', List.mem_map, exists_exists_and_eq_and,
    Expression.acceptsEach_literal_cons_iff, acceptsEach_char_cons_iff, acceptsEach_ending_iff,
    CharSet.contains, Bool.and_eq_true, decide_eq_true_eq]
  constructor
  · rintro ⟨rfl, type, typeListed, _, rfl, _, rfl, scope, scopeListed, _, rfl, _, rfl, _, rfl, _,
      rfl, initial, description, rfl, ⟨least, most⟩, noFeed, rfl⟩
    exact ⟨rfl, rfl, type, typeListed, scope, scopeListed, initial, description, least, most,
      noFeed, rfl⟩
  · rintro ⟨rfl, rfl, type, typeListed, scope, scopeListed, initial, description, least, most,
      noFeed, rfl⟩
    exact ⟨rfl, type, typeListed, _, rfl, _, rfl, scope, scopeListed, _, rfl, _, rfl, _, rfl, _,
      rfl, initial, description, rfl, ⟨least, most⟩, noFeed, rfl⟩

/-- The pattern that a subject is tested with decides the form of the line. -/
theorem isMatch_subjectExpression_iff (types : policy.types ≠ []) (scopes : policy.scopes ≠ [])
    {line : Line} (unbroken : '\n' ∉ line) :
    policy.subjectExpression.pattern.isMatch line = true ↔ policy.Allows line := by
  have form (type scope : String) (initial : Char) (description : List Char) :
      type.toList ++ "(".toList ++ scope.toList ++ "): ".toList ++ initial :: description =
        type.toList ++ '(' :: (scope.toList ++ ')' :: ':' :: ' ' :: initial :: description) := by
    simp
  rw [isMatch_iff]
  simp only [Allows, form]
  constructor
  · rintro ⟨before, stretch, after, rfl, accepted⟩
    rcases (accepts_subjectExpression_iff types scopes).1 accepted with ⟨rfl, rfl, type, typeListed,
      scope, scopeListed, initial, description, least, most, _, rfl⟩
    exact ⟨type, typeListed, scope, scopeListed, initial, description, least, most, by simp⟩
  · rintro ⟨type, typeListed, scope, scopeListed, initial, description, least, most, rfl⟩
    have noFeed : '\n' ∉ description := fun feed => unbroken (by simp [feed])
    exact ⟨[], _, [], (List.append_nil _).symm, (accepts_subjectExpression_iff types scopes).2
      ⟨rfl, rfl, type, typeListed, scope, scopeListed, initial, description, least, most, noFeed,
        rfl⟩⟩

/-- The pattern depends on which types and which scopes there are, and on nothing else. -/
theorem equivalent_subjectExpression {other : CommitPolicy}
    (types : ∀ type, type ∈ policy.types ↔ type ∈ other.types)
    (scopes : ∀ scope, scope ∈ policy.scopes ↔ scope ∈ other.scopes) :
    Equivalent policy.subjectExpression.pattern other.subjectExpression.pattern := by
  have choice {texts texts' : List String} (same : ∀ text, text ∈ texts ↔ text ∈ texts') :
      Equivalent (Expression.literalChoice (texts.map String.toList)).pattern
        (Expression.literalChoice (texts'.map String.toList)).pattern := by
    apply Expression.equivalent_literalChoice
    intro text
    simp only [List.mem_map, same]
  rw [pattern_subjectExpression, pattern_subjectExpression]
  apply equivalent_sequenceAll
  exact .cons (.refl _) (.cons (choice types) (.cons (.refl _) (.cons (choice scopes)
    (List.forall₂_same.2 fun pattern _ => .refl pattern))))

theorem readPattern_subjectText (policy : CommitPolicy) :
    Rule.readPattern none "commit_subject" false policy.subjectText =
      .ok policy.subjectExpression.pattern := by
  rw [Rule.readPattern_eq_ok_iff, compile?_none, parse?, parse?_subjectText]
  rfl

end CommitPolicy

namespace RuleSet

variable {limit : Option Nat} {policy : Policy}

theorem Reads.commitSubject_eq {rules : RuleSet} (reads : rules.Reads limit policy) :
    rules.commitSubject = policy.commit.subjectExpression.pattern := by
  have subject := policy.commit.readPattern_subjectText
  rw [Rule.readPattern_eq_ok_iff, reads.unlimited.commitSubject] at subject
  exact Option.some.inj subject

/-- Without a limit, only an added phrase can be at fault if the rules cannot be read. -/
theorem exists_unlimited_iff :
    (∃ rules, ofPolicy policy none = .ok rules) ↔
      ∀ phrase ∈ policy.rules.extraForbiddenPhrases, ∃ pattern,
        Pattern.parse? { caseless := true } phrase.toList = some pattern := by
  rcases exists_ofPolicy_builtin with ⟨builtin, read⟩
  rw [(ofPolicy_eq_ok_iff.1 read).unlimited.exists_ofPolicy_iff]
  simp only [compile?_none]
  exact and_iff_left rfl

/-- The subject pattern of a policy can be read whatever its types and scopes are made of, and
the rules of the policy have it: a line matches exactly if it is of the form that the policy
asks for. -/
theorem commitSubject_grammar (types : policy.commit.types ≠ [])
    (scopes : policy.commit.scopes ≠ []) :
    (∃ pattern, Rule.readPattern none "commit_subject" false policy.commit.subjectText =
      .ok pattern) ∧
    ((∃ rules, ofPolicy policy none = .ok rules) ↔
      ∀ phrase ∈ policy.rules.extraForbiddenPhrases, ∃ pattern,
        Pattern.parse? { caseless := true } phrase.toList = some pattern) ∧
    ∀ limit rules, ofPolicy policy limit = .ok rules → ∀ line : Line, '\n' ∉ line →
      (rules.commitSubject.isMatch line = true ↔
        ∃ type ∈ policy.commit.types, ∃ scope ∈ policy.commit.scopes,
          ∃ initial description, 'a' ≤ initial ∧ initial ≤ 'z' ∧
            line = type.toList ++ "(".toList ++ scope.toList ++ "): ".toList ++
              initial :: description) := by
  refine ⟨⟨_, policy.commit.readPattern_subjectText⟩, exists_unlimited_iff, ?_⟩
  intro limit rules read line unbroken
  rw [(ofPolicy_eq_ok_iff.1 read).commitSubject_eq]
  exact CommitPolicy.isMatch_subjectExpression_iff types scopes unbroken

/-- Types and scopes that would mean something else if they were read as patterns. -/
def metaCommit : CommitPolicy where
  types := ["a.c", "(x|y)*"]
  scopes := ["[s]+", "$"]

theorem commitSubject_grammar_of_metacharacters :
    ∃ rules, ofPolicy { commit := metaCommit } none = .ok rules ∧
      rules.commitSubject.isMatch "(x|y)*([s]+): done".toList = true ∧
        rules.commitSubject.isMatch "abc(s): done".toList = false := by
  have grammar := @commitSubject_grammar { commit := metaCommit } (by decide) (by decide)
  rcases grammar with ⟨_, readable, form⟩
  have unextended : ∀ phrase ∈ ([] : List String), ∃ pattern,
      Pattern.parse? { caseless := true } phrase.toList = some pattern := by
    intro phrase member
    cases member
  rcases readable.2 unextended with ⟨rules, read⟩
  refine ⟨rules, read, ?_, ?_⟩
  · refine (form none rules read _ (by decide)).2 ?_
    exact ⟨"(x|y)*", by decide, "[s]+", by decide, 'd', "one".toList, by decide, by decide,
      by decide⟩
  · refine Bool.eq_false_iff.2 fun matched => ?_
    rcases (form none rules read _ (by decide)).1 matched with
      ⟨type, typeListed, scope, scopeListed, initial, description, _, _, same⟩
    have listed : type = "a.c" ∨ type = "(x|y)*" := by simpa [metaCommit] using typeListed
    rcases listed with rfl | rfl <;> simp at same

end RuleSet

end Precommit
