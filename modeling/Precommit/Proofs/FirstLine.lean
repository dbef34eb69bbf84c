import Precommit.Proofs.Rule.Firing
import Precommit.Proofs.Text.Trim
import Precommit.Proofs.WiderPolicies

/-!
# Messages are judged by their first line

Once a message is trimmed, four tests look at its first line, none of them at what another one
finds. So the findings are those of the tests in their order, messages with the same first line
have the same findings, and a body makes no difference (`findings_first_line`).
-/

namespace Precommit

/-- A character that ends a run of others ends it whatever comes behind it. -/
theorem takeWhile_append_cons {Item : Type} {keep : Item → Bool} {item : Item}
    (ends : keep item = false) (before after : List Item) :
    (before ++ item :: after).takeWhile keep = before.takeWhile keep := by
  rw [List.takeWhile_append]
  split
  case isTrue whole =>
    rw [List.takeWhile_cons_of_neg (Bool.eq_false_iff.1 ends), List.append_nil]
    exact (List.takeWhile_prefix keep).eq_of_length whole |>.symm
  case isFalse => rfl

namespace CommitMessage

open Text

variable {rules : RuleSet} {message : String}

/-! ### The first line -/

theorem subject_ne_nil (notBlank : trim message.toList ≠ []) : subject message ≠ [] := by
  unfold subject
  cases trimmed : trim message.toList with
  | nil => exact absurd trimmed notBlank
  | cons first rest =>
      have visible : Unicode.isBlank first = false :=
        isBlank_of_head?_trim (by rw [trimmed, List.head?_cons])
      have noFeed : first ≠ '\n' := by
        rintro rfl
        exact absurd visible (by decide)
      simp [noFeed]

/-- The first line is followed by a line feed or by nothing. -/
theorem exists_rest_of_subject (message : String) :
    ∃ rest, trim message.toList = subject message ++ rest ∧
      (rest = [] ∨ rest.head? = some '\n') := by
  refine ⟨(trim message.toList).dropWhile (· != '\n'), List.takeWhile_append_dropWhile.symm, ?_⟩
  have first := List.head?_dropWhile_not (· != '\n') (trim message.toList)
  cases rest : (trim message.toList).dropWhile (· != '\n') with
  | nil => exact .inl rfl
  | cons feed rest' =>
      right
      simpa [rest] using first

/-- Nothing is trimmed from a trimmed text because of what stands behind a line feed after it. -/
theorem exists_trim_append {line : List Char} (notBlank : trim line ≠ []) (body : List Char) :
    trim (trim line ++ '\n' :: body) = trim line ∨
      ∃ body', trim (trim line ++ '\n' :: body) = trim line ++ '\n' :: body' := by
  have trimmed := trim_eq_self_iff.1 (trim_trim line)
  have start : trimStart (trim line ++ '\n' :: body) = trim line ++ '\n' :: body := by
    rw [trimStart_eq_self_iff, List.head?_append_of_ne_nil _ notBlank]
    exact trimmed.1
  have ending : trimEnd (trim line) = trim line := trimEnd_eq_self_iff.2 trimmed.2
  rw [trim, start, trimEnd_append_eq, ending]
  split
  case isTrue => exact .inl rfl
  case isFalse kept =>
    right
    rcases prefix_trimEnd ('\n' :: body) with ⟨blanks, whole⟩
    cases ended : trimEnd ('\n' :: body) with
    | nil => exact absurd ended kept
    | cons feed body' =>
        rw [ended, List.cons_append, List.cons.injEq] at whole
        exact ⟨body', by rw [whole.1]⟩

/-- With a body or without it, the first line is the same. -/
theorem subject_append_body (notBlank : trim message.toList ≠ []) (body : List Char) :
    subject (String.ofList (trim message.toList ++ '\n' :: body)) = subject message := by
  unfold subject
  rw [String.toList_ofList]
  rcases exists_trim_append notBlank body with same | ⟨body', longer⟩
  · rw [same]
  · rw [longer, takeWhile_append_cons (by decide)]

/-! ### The tests -/

/-- Under the condition a test finds this detail, and otherwise nothing. -/
def FindsIff (condition : Prop) (detail : String) (found : List Finding) : Prop :=
  (condition → found = [finding detail]) ∧ (¬condition → found = [])

theorem findsIff_ite {condition : Prop} [Decidable condition] {detail : String} :
    FindsIff condition detail (if condition then [finding detail] else []) :=
  ⟨fun holds => if_pos holds, fun fails => if_neg fails⟩

theorem findsIff_formatFindings (rules : RuleSet) (line : Line) :
    FindsIff (¬rules.commitSubject.Matches line)
      ("Does not match format: type(scope): description — got: " ++ String.ofList line)
      (formatFindings rules line) := by
  unfold formatFindings
  rw [← Pattern.isMatch_iff]
  constructor
  · intro outside
    exact if_neg outside
  · intro inside
    exact if_pos (not_not.1 inside)

theorem findsIff_periodFindings (line : Line) :
    FindsIff (∃ start, line = start ++ ['.']) "Description must not end with a period"
      (periodFindings line) := by
  unfold periodFindings
  simp only [← List.getLast?_eq_some_iff]
  exact findsIff_ite

/-- Of the phrases in the line, the first one in the table is found. -/
theorem phraseFindings_cases (rules : RuleSet) (line : Line) :
    (∀ rule ∈ rules.forbiddenPhrases.rules, ¬rule.pattern.Matches line) ∧
        phraseFindings rules line = [] ∨
      ∃ before rule after, rules.forbiddenPhrases.rules = before ++ rule :: after ∧
        (∀ earlier ∈ before, ¬earlier.pattern.Matches line) ∧ rule.pattern.Matches line ∧
          phraseFindings rules line =
            [finding ("Contains forbidden attribution phrase: " ++ rule.source)] := by
  unfold phraseFindings RuleTable.firstMatch?
  cases found : rules.forbiddenPhrases.rules.find? (·.isMatch line) with
  | none =>
      left
      refine ⟨?_, rfl⟩
      intro rule member
      rw [← rule.isMatch_iff]
      exact List.find?_eq_none.1 found rule member
  | some rule =>
      right
      rcases List.find?_eq_some_iff_append.1 found with ⟨applies, before, after, split, fails⟩
      refine ⟨before, rule, after, split, ?_, (rule.isMatch_iff line).1 applies, rfl⟩
      intro earlier member
      rw [← earlier.isMatch_iff]
      simpa using fails earlier member

/-- Messages with the same first line have the same findings. -/
theorem findings_congr {other : String} (notBlank : trim message.toList ≠ [])
    (same : subject other = subject message) : findings rules other = findings rules message := by
  have notBlank' : trim other.toList ≠ [] := by
    intro blank
    apply subject_ne_nil notBlank
    rw [← same, subject, blank, List.takeWhile_nil]
  rw [findings_of_not_blank notBlank', findings_of_not_blank notBlank, same]

/--
The findings in a message that is not blank are those of four tests, one after the other: its
first line is too long, is not of the form that the pattern asks for, ends with a period or has
a forbidden phrase in it, of which the first in the table is named. Each looks at the first line
only, so another message with this line has the same findings, and so has the trimmed message
with any body. A blank message has one finding.
-/
theorem findings_first_line (rules : RuleSet) {message : String}
    (notBlank : trim message.toList ≠ []) :
    let line := subject message
    (line ≠ [] ∧ '\n' ∉ line ∧ ∃ rest, trim message.toList = line ++ rest ∧
      (rest = [] ∨ rest.head? = some '\n')) ∧
    (∃ length format period phrase,
      findings rules message = length ++ format ++ period ++ phrase ∧
      FindsIff (rules.maxSubjectLength < line.length)
        ("First line exceeds " ++ toString rules.maxSubjectLength ++ " characters (" ++
          toString line.length ++ " chars)") length ∧
      FindsIff (¬rules.commitSubject.Matches line)
        ("Does not match format: type(scope): description — got: " ++ String.ofList line) format ∧
      FindsIff (∃ start, line = start ++ ['.']) "Description must not end with a period" period ∧
      ((∀ rule ∈ rules.forbiddenPhrases.rules, ¬rule.pattern.Matches line) ∧ phrase = [] ∨
        ∃ before rule after, rules.forbiddenPhrases.rules = before ++ rule :: after ∧
          (∀ earlier ∈ before, ¬earlier.pattern.Matches line) ∧ rule.pattern.Matches line ∧
            phrase = [finding ("Contains forbidden attribution phrase: " ++ rule.source)])) ∧
    (∀ limit policy, RuleSet.ofPolicy policy limit = .ok rules →
      (rules.commitSubject.Matches line ↔ policy.commit.explicit.Allows line)) ∧
    (∀ found ∈ findings rules message,
      found.label.id = "CC-001" ∧ found.file = "<commit>" ∧ found.line = 1) ∧
    (∀ other, subject other = line → findings rules other = findings rules message) ∧
    (∀ body, findings rules (String.ofList (trim message.toList ++ '\n' :: body)) =
      findings rules message) ∧
    ∀ blank, trim blank.toList = [] → findings rules blank = [finding "Empty commit message"] := by
  intro line
  refine ⟨⟨subject_ne_nil notBlank, noFeed_subject message, exists_rest_of_subject message⟩,
    ?_, ?_, ?_, ?_, ?_, ?_⟩
  · exact ⟨_, _, _, _, findings_of_not_blank notBlank, findsIff_ite,
      findsIff_formatFindings rules line, findsIff_periodFindings line,
      phraseFindings_cases rules line⟩
  · intro limit policy read
    rw [← Pattern.isMatch_iff, (RuleSet.ofPolicy_eq_ok_iff.1 read).commitSubject_eq]
    exact CommitPolicy.isMatch_subjectExpression_iff_explicit _ (noFeed_subject message)
  · intro found member
    rcases isMarked_of_mem member with ⟨label, file, number⟩
    rw [label, file, number]
    exact ⟨rfl, rfl, rfl⟩
  · intro other same
    exact findings_congr notBlank same
  · intro body
    exact findings_congr notBlank (subject_append_body notBlank body)
  · intro blank isBlank
    exact findings_of_blank isBlank

/-- A carriage return before the line feed is part of the first line, and hides the period. -/
theorem findings_first_line_carriage :
    ∃ rules, RuleSet.ofPolicy {} = .ok rules ∧
      let message := "\u3000 fix(audio): mute.\r\n\nwip. \n"
      trim message.toList ≠ [] ∧ subject message = "fix(audio): mute.\r".toList ∧
        findings rules (String.ofList (trim message.toList ++ "\n\t\n".toList)) =
          findings rules message := by
  rcases RuleSet.exists_ofPolicy_builtin with ⟨rules, read⟩
  refine ⟨rules, read, ?_⟩
  intro message
  have notBlank : trim message.toList ≠ [] := by decide +kernel
  rcases findings_first_line rules notBlank with ⟨_, _, _, _, _, unaffected, _⟩
  exact ⟨notBlank, by decide +kernel, unaffected "\t\n".toList⟩

end CommitMessage

end Precommit
