import Precommit.Proofs.Rule.Grammar
import Precommit.Proofs.Subject

/-!
# Policies that allow more

A policy with more types and more scopes accepts every commit subject that it accepted
without them (`findings_wider`). This fails for a list that was empty: no types or no scopes
at all do not leave the pattern without a choice but with the empty text, and a list that
gets its first entry no longer has that, unless it is the entry.
-/

namespace Precommit

namespace CommitPolicy

/-- What the pattern for commit subjects takes for a list: the empty text if there is no other. -/
def choices (texts : List String) : List String :=
  if texts = [] then [""] else texts

/-- The policy with each list made explicit. -/
def explicit (policy : CommitPolicy) : CommitPolicy :=
  { policy with types := choices policy.types, scopes := choices policy.scopes }

theorem choices_ne_nil (texts : List String) : choices texts ≠ [] := by
  unfold choices
  split
  · exact List.cons_ne_nil _ _
  · assumption

theorem choices_subset {texts texts' : List String} (more : texts ⊆ texts')
    (kept : texts = [] → texts' = [] ∨ "" ∈ texts') : choices texts ⊆ choices texts' := by
  by_cases empty : texts = []
  · rcases kept empty with empty' | listed
    · rw [empty, empty']
      exact List.Subset.refl _
    · rw [choices, if_pos empty, choices, if_neg (List.ne_nil_of_mem listed)]
      exact List.cons_subset.2 ⟨listed, List.nil_subset _⟩
  · rw [choices, if_neg empty, choices, if_neg]
    · exact more
    · rintro rfl
      exact empty (List.subset_nil.1 more)

theorem literalChoice_choices (texts : List String) :
    Pattern.Expression.literalChoice ((choices texts).map String.toList) =
      Pattern.Expression.literalChoice (texts.map String.toList) := by
  by_cases empty : texts = []
  · rw [empty]
    rfl
  · rw [choices, if_neg empty]

theorem subjectExpression_explicit (policy : CommitPolicy) :
    policy.explicit.subjectExpression = policy.subjectExpression := by
  simp only [subjectExpression, explicit, literalChoice_choices]

/-- The pattern decides the form of a line also where a list is empty. -/
theorem isMatch_subjectExpression_iff_explicit (policy : CommitPolicy) {line : Line}
    (unbroken : '\n' ∉ line) :
    policy.subjectExpression.pattern.isMatch line = true ↔ policy.explicit.Allows line := by
  rw [← subjectExpression_explicit]
  exact isMatch_subjectExpression_iff (choices_ne_nil _) (choices_ne_nil _) unbroken

theorem Allows.mono {policy other : CommitPolicy} {line : Line} (allowed : policy.Allows line)
    (types : policy.types ⊆ other.types) (scopes : policy.scopes ⊆ other.scopes) :
    other.Allows line := by
  rcases allowed with ⟨type, typeListed, scope, scopeListed, form⟩
  exact ⟨type, types typeListed, scope, scopes scopeListed, form⟩

end CommitPolicy

namespace CommitMessage

variable {limit limit' : Option Nat} {policy : Policy} {rules rules' : RuleSet}
  {message : String}

/-- The finding that the subject is not of the form that the policy asks for. -/
def IsFormatFinding (found : Finding) : Prop :=
  ∃ subject : Line, found =
    finding ("Does not match format: type(scope): description — got: " ++ String.ofList subject)

theorem noFeed_subject (message : String) : '\n' ∉ subject message := by
  intro feed
  have kept := List.all_eq_true.1 List.all_takeWhile '\n' feed
  cases kept

theorem IsFormatFinding.begins {found : Finding} (format : IsFormatFinding found) :
    found.detail.toList.take 2 = ['D', 'o'] := by
  rcases format with ⟨subject, rfl⟩
  simp [finding]

/-- None but one test of a message finds this. -/
theorem isFormatFinding_iff_of_mem {found : Finding} (member : found ∈ findings rules message) :
    IsFormatFinding found ↔ Text.trim message.toList ≠ [] ∧
      found ∈ formatFindings rules (subject message) := by
  constructor
  · intro format
    have begins := format.begins
    by_cases blank : Text.trim message.toList = []
    · rw [findings_of_blank blank, List.mem_singleton] at member
      rw [member] at begins
      exact absurd begins (by decide)
    · refine ⟨blank, ?_⟩
      rw [findings_of_not_blank blank] at member
      simp only [List.mem_append] at member
      rcases member with ((long | inFormat) | period) | phrase
      · unfold lengthFindings at long
        split at long
        · rw [List.mem_singleton.1 long] at begins
          simp [finding] at begins
        · cases long
      · exact inFormat
      · unfold periodFindings at period
        split at period
        · rw [List.mem_singleton.1 period] at begins
          exact absurd begins (by decide)
        · cases period
      · rw [phraseFindings_eq] at phrase
        rcases List.mem_map.1 phrase with ⟨rule, _, rfl⟩
        simp [finding] at begins
  · rintro ⟨_, inFormat⟩
    unfold formatFindings at inFormat
    split at inFormat
    · cases inFormat
    · exact ⟨_, List.mem_singleton.1 inFormat⟩

/-- It is found exactly if there is a subject and the pattern does not match it. -/
theorem exists_isFormatFinding_iff :
    (∃ found ∈ findings rules message, IsFormatFinding found) ↔
      Text.trim message.toList ≠ [] ∧ rules.commitSubject.isMatch (subject message) = false := by
  constructor
  · rintro ⟨found, member, format⟩
    rcases (isFormatFinding_iff_of_mem member).1 format with ⟨notBlank, inFormat⟩
    refine ⟨notBlank, Bool.eq_false_iff.2 fun matched => ?_⟩
    rw [formatFindings, if_pos matched] at inFormat
    cases inFormat
  · rintro ⟨notBlank, unmatched⟩
    refine ⟨_, ?_, subject message, rfl⟩
    rw [findings_of_not_blank notBlank, formatFindings, if_neg (Bool.eq_false_iff.1 unmatched)]
    simp

theorem not_isFormatFinding_of_isMatch (matched : rules.commitSubject.isMatch (subject message)) :
    ∀ found ∈ findings rules message, ¬IsFormatFinding found := by
  intro found member format
  rcases exists_isFormatFinding_iff.1 ⟨found, member, format⟩ with ⟨_, unmatched⟩
  rw [matched] at unmatched
  cases unmatched

/-- So it is found exactly if there is a subject and it is not of the form of the policy. -/
theorem exists_isFormatFinding_iff_not_allows (reads : rules.Reads limit policy) :
    (∃ found ∈ findings rules message, IsFormatFinding found) ↔
      Text.trim message.toList ≠ [] ∧ ¬policy.commit.explicit.Allows (subject message) := by
  rw [exists_isFormatFinding_iff, reads.commitSubject_eq, ← Bool.not_eq_true,
    CommitPolicy.isMatch_subjectExpression_iff_explicit _ (noFeed_subject message)]

/-- A subject pattern that matches at least as much leads to no further findings. -/
theorem findings_withSubject_sublist {pattern : Pattern}
    (more : ∀ line, '\n' ∉ line → rules.commitSubject.isMatch line = true →
      pattern.isMatch line = true) :
    (findings { rules with commitSubject := pattern } message).Sublist
      (findings rules message) := by
  by_cases blank : Text.trim message.toList = []
  · rw [findings_of_blank blank, findings_of_blank blank]
  · rw [findings_of_not_blank blank, findings_of_not_blank blank]
    have formats :
        (formatFindings { rules with commitSubject := pattern } (subject message)).Sublist
          (formatFindings rules (subject message)) := by
      unfold formatFindings
      by_cases matched : rules.commitSubject.isMatch (subject message) = true
      · rw [if_pos matched, if_pos (more _ (noFeed_subject message) matched)]
      · rw [if_neg matched]
        split
        · exact List.nil_sublist _
        · exact List.Sublist.refl _
    exact (((List.Sublist.refl _).append formats).append (.refl _)).append (.refl _)

/--
A subject that is not of the form of the policy is reported as such. With more types and
scopes, and all else the same, a message has no findings that it did not have; in particular
a subject keeps the form it had. A list that was empty has to stay so or to get the empty
text.
-/
theorem findings_wider {types scopes : List String}
    (moreTypes : policy.commit.types ⊆ types) (moreScopes : policy.commit.scopes ⊆ scopes)
    (typesKept : policy.commit.types = [] → types = [] ∨ "" ∈ types)
    (scopesKept : policy.commit.scopes = [] → scopes = [] ∨ "" ∈ scopes)
    (read : RuleSet.ofPolicy policy limit = .ok rules)
    (read' : RuleSet.ofPolicy
      { policy with commit := { policy.commit with types := types, scopes := scopes } } limit' =
        .ok rules')
    (message : String) :
    ((∃ found ∈ findings rules message, IsFormatFinding found) ↔
        Text.trim message.toList ≠ [] ∧ ¬policy.commit.explicit.Allows (subject message)) ∧
      (findings rules' message).Sublist (findings rules message) ∧
      ((∀ found ∈ findings rules message, ¬IsFormatFinding found) →
        ∀ found ∈ findings rules' message, ¬IsFormatFinding found) := by
  have reads := (RuleSet.ofPolicy_eq_ok_iff.1 read).unlimited
  have reads' := (RuleSet.ofPolicy_eq_ok_iff.1 read').unlimited
  have fewer : (findings rules' message).Sublist (findings rules message) := by
    rw [reads.eq_withSubject reads' rfl rfl]
    refine findings_withSubject_sublist fun line unbroken matched => ?_
    rw [reads.commitSubject_eq, CommitPolicy.isMatch_subjectExpression_iff_explicit _ unbroken]
      at matched
    rw [reads'.commitSubject_eq, CommitPolicy.isMatch_subjectExpression_iff_explicit _ unbroken]
    exact matched.mono (CommitPolicy.choices_subset moreTypes typesKept)
      (CommitPolicy.choices_subset moreScopes scopesKept)
  exact ⟨exists_isFormatFinding_iff_not_allows reads, fewer,
    fun formed found member => formed found (fewer.subset member)⟩

/-- Without further phrases, the rules can be read if the subject pattern finds room. -/
theorem exists_rules_of_isRoomy {commit : CommitPolicy}
    (roomy : commit.subjectExpression.plan.isRoomy Pattern.sizeLimit false = true) :
    ∃ rules, RuleSet.ofPolicy { commit := commit } = .ok rules :=
  RuleSet.exists_ofPolicy_iff.2
    ⟨fun _ listed => (List.not_mem_nil listed).elim, Pattern.Plan.fits_of_isRoomy roomy⟩

/-- A second type does not take its form from a subject with the first one. -/
theorem findings_wider_second_type :
    ∃ rules rules', RuleSet.ofPolicy { commit := { types := ["fix"] } } = .ok rules ∧
      RuleSet.ofPolicy { commit := { types := ["fix", "feat"] } } = .ok rules' ∧
      ∀ found ∈ findings rules' "fix(audio): mute", ¬IsFormatFinding found := by
  rcases @exists_rules_of_isRoomy { types := ["fix"] } (by decide +kernel) with ⟨rules, read⟩
  rcases @exists_rules_of_isRoomy { types := ["fix", "feat"] } (by decide +kernel) with
    ⟨rules', read'⟩
  have formed : ∀ found ∈ findings rules "fix(audio): mute", ¬IsFormatFinding found := by
    apply not_isFormatFinding_of_isMatch
    rw [(RuleSet.ofPolicy_eq_ok_iff.1 read).commitSubject_eq]
    decide +kernel
  exact ⟨rules, rules', read, read',
    (findings_wider (by decide) (List.Subset.refl _) (fun empty => by cases empty)
      (fun empty => by cases empty) read read' _).2.2 formed⟩

/-- The first type of a list takes the form from a subject without a type. -/
theorem findings_wider_first_type :
    ∃ rules rules', RuleSet.ofPolicy { commit := { types := [] } } = .ok rules ∧
      RuleSet.ofPolicy { commit := { types := ["fix"] } } = .ok rules' ∧
      (∀ found ∈ findings rules "(audio): mute", ¬IsFormatFinding found) ∧
      ∃ found ∈ findings rules' "(audio): mute", IsFormatFinding found := by
  rcases @exists_rules_of_isRoomy { types := [] } (by decide +kernel) with ⟨rules, read⟩
  rcases @exists_rules_of_isRoomy { types := ["fix"] } (by decide +kernel) with ⟨rules', read'⟩
  refine ⟨rules, rules', read, read', ?_, ?_⟩
  · apply not_isFormatFinding_of_isMatch
    rw [(RuleSet.ofPolicy_eq_ok_iff.1 read).commitSubject_eq]
    decide +kernel
  · rw [exists_isFormatFinding_iff, (RuleSet.ofPolicy_eq_ok_iff.1 read').commitSubject_eq]
    decide +kernel

end CommitMessage

end Precommit
