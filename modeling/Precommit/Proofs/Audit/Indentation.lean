import Precommit.Proofs.Audit.Assembly
import Precommit.Proofs.Audit.LineBreaks
import Precommit.Proofs.Check.Breach
import Precommit.Proofs.Check.ForceUnwrap
import Precommit.Proofs.Check.LineByLine
import Precommit.Proofs.Pattern.SurroundingText
import Precommit.Proofs.Text.Trim

/-!
# Indentation does not matter

Spaces and tabs at the start and at the end of lines make no difference to an audit with the
built-in rules: no match begins or ends with them, comments, debug blocks and excerpts are
those of the trimmed line, and an exclamation mark after a blank is no more an unwrap than
one at the start of the line (`textFindings_reindented`).
-/

namespace Precommit

namespace Text

/-- The characters that lines are indented with. -/
def indentation : List Char :=
  [' ', '\t']

theorem isBlank_of_mem_indentation :
    ∀ character ∈ indentation, Unicode.isBlank character = true :=
  List.all_eq_true.1 (by decide)

theorem trim_indented {leading trailing : List Char} (isLeading : leading ⊆ indentation)
    (isTrailing : trailing ⊆ indentation) (line : List Char) :
    trim (leading ++ line ++ trailing) = trim line :=
  trim_surrounded (fun character member => isBlank_of_mem_indentation character (isLeading member))
    (fun character member => isBlank_of_mem_indentation character (isTrailing member)) line

theorem IsUnbroken.indented {leading line trailing : List Char}
    (isLeading : leading ⊆ indentation) (isTrailing : trailing ⊆ indentation)
    (unbroken : IsUnbroken line) : IsUnbroken (leading ++ line ++ trailing) := by
  have noReturn : '\r' ∉ indentation := by decide
  have noFeed : '\n' ∉ indentation := by decide
  simp only [IsUnbroken, List.mem_append, not_or]
  exact ⟨⟨⟨fun member => noReturn (isLeading member), unbroken.1⟩,
    fun member => noReturn (isTrailing member)⟩,
    ⟨fun member => noFeed (isLeading member), unbroken.2⟩,
    fun member => noFeed (isTrailing member)⟩

end Text

namespace Line

/-- The lines are the same but for spaces and tabs at their starts and ends. -/
inductive Reindented : Line → Line → Prop
  | around {leading trailing leading' trailing' : List Char} (core : Line)
      (isLeading : leading ⊆ Text.indentation) (isTrailing : trailing ⊆ Text.indentation)
      (isLeading' : leading' ⊆ Text.indentation) (isTrailing' : trailing' ⊆ Text.indentation) :
      Reindented (leading ++ core ++ trailing) (leading' ++ core ++ trailing')

/-- What does not depend on the indentation of a line is the same for both lines. -/
theorem Reindented.congr {Value : Type} {line line' : Line} (reindented : Reindented line line')
    {value : Line → Value}
    (stable : ∀ {leading trailing : List Char}, leading ⊆ Text.indentation →
      trailing ⊆ Text.indentation → ∀ line, value (leading ++ line ++ trailing) = value line) :
    value line = value line' := by
  cases reindented with
  | around core isLeading isTrailing isLeading' isTrailing' =>
      rw [stable isLeading isTrailing, stable isLeading' isTrailing']

theorem Reindented.isUnbroken {line line' : Line} (reindented : Reindented line line')
    (unbroken : Text.IsUnbroken line) : Text.IsUnbroken line' := by
  cases reindented with
  | around core _ _ isLeading' isTrailing' =>
      refine Text.IsUnbroken.indented isLeading' isTrailing' ⟨fun feed => ?_, fun feed => ?_⟩
      · exact unbroken.1 (List.mem_append_left _ (List.mem_append_right _ feed))
      · exact unbroken.2 (List.mem_append_left _ (List.mem_append_right _ feed))

section

variable {leading trailing : List Char} (isLeading : leading ⊆ Text.indentation)
  (isTrailing : trailing ⊆ Text.indentation)

include isLeading isTrailing

theorem isComment_indented (line : Line) :
    isComment (leading ++ line ++ trailing) = isComment line := by
  rw [isComment, isComment, Text.trim_indented isLeading isTrailing]

theorem debugDepth_indented (depth : Nat) (line : Line) :
    debugDepth depth (leading ++ line ++ trailing) = debugDepth depth line := by
  rw [debugDepth, debugDepth, Text.trim_indented isLeading isTrailing]

end

end Line

namespace RuleTable

/-- No rule of the table takes notice of the characters around a line. -/
def Overlooks (table : RuleTable) (characters : List Char) : Prop :=
  ∀ rule ∈ table.rules, rule.pattern.isUnaffectedBy characters = true

variable {table : RuleTable} {characters : List Char}

theorem Lists.overlooks {limit : Option Nat} {caseless : Bool} {texts : List RuleText}
    (lists : table.Lists limit caseless texts)
    (each : (texts.all fun text =>
      Pattern.textIsUnaffectedBy caseless characters text.source) = true) :
    table.Overlooks characters :=
  lists.forall_pattern (List.all_eq_true.1 each)

theorem Overlooks.adjust (overlooks : table.Overlooks characters)
    (adjustment : TableAdjustment) : (table.adjust adjustment).Overlooks characters :=
  @forall_mem_adjust _ (fun _ pattern => pattern.isUnaffectedBy characters = true) overlooks
    adjustment

theorem Overlooks.firing_surrounded (overlooks : table.Overlooks characters)
    {leading trailing : List Char} (isLeading : leading ⊆ characters)
    (isTrailing : trailing ⊆ characters) (line : Line) :
    table.firing (leading ++ line ++ trailing) = table.firing line :=
  firing_congr fun rule member =>
    Pattern.isMatch_surrounded (overlooks rule member) isLeading isTrailing line

end RuleTable

/-- No pattern that is tried on the lines of files takes notice of how they are indented. -/
structure RuleSet.OverlooksIndentation (rules : RuleSet) : Prop where
  phrases : rules.forbiddenPhrases.Overlooks Text.indentation
  unwrapCandidate : rules.unwrapCandidate.isUnaffectedBy Text.indentation = true
  unwrapFalsePositive : rules.unwrapFalsePositive.isUnaffectedBy Text.indentation = true
  calls : rules.debugCalls.Overlooks Text.indentation
  apis : rules.bannedApis.Overlooks Text.indentation
  secrets : rules.secrets.Overlooks Text.indentation
  secretFalsePositive : rules.secretFalsePositive.isUnaffectedBy Text.indentation = true

namespace RuleSet

variable {limit : Option Nat} {policy : Policy} {rules : RuleSet}

theorem Reads.overlooksIndentation (reads : rules.Reads limit policy)
    (builtin : policy.rules.extraForbiddenPhrases = []) : rules.OverlooksIndentation := by
  rcases Builtin.texts_unaffected_by_indentation with ⟨phrases, calls, apis, secrets, tests⟩
  have tests := List.all_eq_true.1 tests
  exact {
    phrases := (reads.builtinPhrases builtin).overlooks phrases
    unwrapCandidate :=
      Pattern.isUnaffectedBy_of_compile? reads.unwrapCandidate (tests _ (by simp))
    unwrapFalsePositive :=
      Pattern.isUnaffectedBy_of_compile? reads.unwrapFalsePositive (tests _ (by simp))
    calls := reads.calls.overlooks calls
    apis := reads.apis.overlooks apis
    secrets := reads.secrets.overlooks secrets
    secretFalsePositive :=
      Pattern.isUnaffectedBy_of_compile? reads.secretFalsePositive (tests _ (by simp)) }

theorem OverlooksIndentation.adjust (overlooks : rules.OverlooksIndentation)
    (adjustments : Adjustments) : (rules.adjust adjustments).OverlooksIndentation where
  phrases := overlooks.phrases.adjust _
  unwrapCandidate := overlooks.unwrapCandidate
  unwrapFalsePositive := overlooks.unwrapFalsePositive
  calls := overlooks.calls.adjust _
  apis := overlooks.apis.adjust _
  secrets := overlooks.secrets.adjust _
  secretFalsePositive := overlooks.secretFalsePositive

end RuleSet

variable {auditor : Auditor} {path : String}

namespace Check

section

variable {rules : RuleSet} {leading trailing : List Char}

variable (overlooks : rules.OverlooksIndentation) (isLeading : leading ⊆ Text.indentation)
  (isTrailing : trailing ⊆ Text.indentation)

include isLeading isTrailing

/-- Neither a missing character nor a blank before an exclamation mark is an operand. -/
theorem mark_unwraps_indented (before after : List Char) :
    (match (leading ++ before).getLast? with
      | none => false
      | some previous =>
          !operatorContext.contains previous && (after ++ trailing).head? != some '=') =
      (match before.getLast? with
        | none => false
        | some previous => !operatorContext.contains previous && after.head? != some '=') := by
  have blankContext : ∀ character ∈ Text.indentation,
      operatorContext.contains character = true :=
    List.all_eq_true.1 (by decide)
  have absent : '=' ∉ Text.indentation := by decide
  have noEquals (character : Char) (member : character ∈ Text.indentation) :
      (character == '=') = false :=
    beq_eq_false_iff_ne.2 (ne_of_mem_of_not_mem member absent)
  have equals (text : List Char) :
      (text.head? != some '=') = !(text.head?.any (· == '=')) := by
    cases text <;> rfl
  rw [equals, equals,
    any_head?_append fun character member => noEquals character (isTrailing member),
    List.getLast?_append]
  cases before.getLast? with
  | some previous => rfl
  | none =>
      cases last : leading.getLast? with
      | none => rfl
      | some previous =>
          have context := blankContext previous (isLeading (List.mem_of_getLast? last))
          simp only [Option.none_or, context, Bool.not_true, Bool.false_and]

include overlooks

theorem isForceUnwrap_indented (line : Line) :
    isForceUnwrap rules (leading ++ line ++ trailing) = isForceUnwrap rules line := by
  have noMark : '!' ∉ Text.indentation := by decide
  have noMark' : '!' ∉ leading ∧ '!' ∉ trailing :=
    ⟨fun member => noMark (isLeading member), fun member => noMark (isTrailing member)⟩
  unfold isForceUnwrap
  rw [Line.isComment_indented isLeading isTrailing,
    Pattern.isMatch_surrounded overlooks.unwrapFalsePositive isLeading isTrailing,
    Pattern.isMatch_surrounded overlooks.unwrapCandidate isLeading isTrailing]
  congr 1
  by_cases marked : '!' ∈ line
  · rcases List.eq_append_cons_of_mem marked with ⟨before, after, rfl, none⟩
    have none' : '!' ∉ leading ++ before := by
      rw [List.mem_append, not_or]
      exact ⟨noMark'.1, none⟩
    have parts : leading ++ (before ++ '!' :: after) ++ trailing =
        leading ++ before ++ '!' :: (after ++ trailing) := by
      simp
    rw [parts, dropWhile_mark none', takeWhile_mark none', dropWhile_mark none,
      takeWhile_mark none]
    exact mark_unwraps_indented isLeading isTrailing before after
  · have absent : '!' ∉ leading ++ line ++ trailing := by
      simp only [List.mem_append, not_or]
      exact ⟨⟨noMark'.1, marked⟩, noMark'.2⟩
    rw [dropWhile_unmarked absent, dropWhile_unmarked marked]

end

section

variable {leading trailing : List Char} (overlooks : auditor.rules.OverlooksIndentation)
  (isLeading : leading ⊆ Text.indentation) (isTrailing : trailing ⊆ Text.indentation)

include overlooks isLeading isTrailing

theorem considers_indented (check : Check) (insideDebug : Bool) (line : Line) :
    check.considers auditor.rules insideDebug (leading ++ line ++ trailing) =
      check.considers auditor.rules insideDebug line := by
  cases check with
  | protocolZero | forceUnwrap => rfl
  | debugArtifact | bannedApi =>
      simp only [considers, Line.isComment_indented isLeading isTrailing]
  | secretLeakage =>
      simp only [considers,
        Pattern.isMatch_surrounded overlooks.secretFalsePositive isLeading isTrailing]

theorem reports_indented (check : Check) (line : Line) :
    check.reports auditor (leading ++ line ++ trailing) = check.reports auditor line := by
  cases check with
  | protocolZero =>
      simp only [reports, overlooks.phrases.firing_surrounded isLeading isTrailing]
  | forceUnwrap => simp only [reports, isForceUnwrap_indented overlooks isLeading isTrailing]
  | debugArtifact =>
      simp only [reports, overlooks.calls.firing_surrounded isLeading isTrailing,
        Text.trim_indented isLeading isTrailing]
  | bannedApi => simp only [reports, overlooks.apis.firing_surrounded isLeading isTrailing]
  | secretLeakage =>
      simp only [reports, overlooks.secrets.firing_surrounded isLeading isTrailing]

theorem lineFindings_indented (check : Check) (number : Nat) (insideDebug : Bool)
    (line : Line) :
    check.lineFindings auditor path number insideDebug (leading ++ line ++ trailing) =
      check.lineFindings auditor path number insideDebug line := by
  rw [lineFindings, lineFindings, considers_indented overlooks isLeading isTrailing,
    reports_indented overlooks isLeading isTrailing]

end

end Check

namespace Auditor

/--
A text of lines has the same findings, in the same places and with the same details, when
spaces and tabs are added or removed at the start and at the end of any of its lines. The
phrases are the built-in ones, the tables may be adjusted.
-/
theorem textFindings_reindented {limit : Option Nat} {policy : Policy} {built : Auditor}
    (read : ofPolicy policy limit = .ok built)
    (builtin : policy.rules.extraForbiddenPhrases = []) (adjustments : Adjustments)
    (path : String) {lines lines' : List Line}
    (unbroken : ∀ line ∈ lines, Text.IsUnbroken line)
    (reindented : List.Forall₂ Line.Reindented lines lines') :
    (built.adjust adjustments).textFindings path (List.intercalate ['\n'] lines) =
      (built.adjust adjustments).textFindings path (List.intercalate ['\n'] lines') := by
  have overlooks : (built.adjust adjustments).rules.OverlooksIndentation :=
    ((ofPolicy_eq_ok_iff.1 read).1.overlooksIndentation builtin).adjust adjustments
  by_cases empty : lines = []
  · subst empty
    cases reindented
    rfl
  · have unbroken' : ∀ line ∈ lines', Text.IsUnbroken line := by
      intro line member
      rcases exists_of_mem_left reindented.flip member with ⟨original, listed, same⟩
      exact same.isUnbroken (unbroken original listed)
    have nonempty : lines' ≠ [] := by
      rintro rfl
      cases reindented
      exact empty rfl
    rw [textFindings_of_breaksInto _ path (Text.breaksInto_intercalate unbroken empty),
      textFindings_of_breaksInto _ path (Text.breaksInto_intercalate unbroken' nonempty)]
    refine congrArg (List.flatMap · Check.all) (funext fun check => ?_)
    apply Check.findings_congr reindented
    · intro _ line line' same depth
      exact same.congr fun isLeading isTrailing =>
        Line.debugDepth_indented isLeading isTrailing depth
    · intro line line' same number insideDebug
      exact same.congr fun isLeading isTrailing =>
        Check.lineFindings_indented overlooks isLeading isTrailing check number insideDebug

theorem textFindings_reindented_unwrap :
    ∃ auditor, ofPolicy {} = .ok auditor ∧
      (auditor.adjust {}).textFindings "A.swift"
          (List.intercalate ['\n'] ["!a".toList, "\t#if DEBUG ".toList, "let b = c!\t".toList]) =
        (auditor.adjust {}).textFindings "A.swift"
          (List.intercalate ['\n']
            [" \t!a".toList, "#if DEBUG".toList, "  let b = c!".toList]) := by
  have unbroken : ∀ line ∈ ["!a".toList, "\t#if DEBUG ".toList, "let b = c!\t".toList],
      Text.IsUnbroken line := by
    unfold Text.IsUnbroken
    decide
  have reindented : List.Forall₂ Line.Reindented
      ["!a".toList, "\t#if DEBUG ".toList, "let b = c!\t".toList]
      [" \t!a".toList, "#if DEBUG".toList, "  let b = c!".toList] := by
    refine .cons ?_ (.cons ?_ (.cons ?_ .nil))
    · exact @Line.Reindented.around [] [] [' ', '\t'] [] "!a".toList
        (by decide) (by decide) (by decide) (by decide)
    · exact @Line.Reindented.around ['\t'] [' '] [] [] "#if DEBUG".toList
        (by decide) (by decide) (by decide) (by decide)
    · exact @Line.Reindented.around [] ['\t'] [' ', ' '] [] "let b = c!".toList
        (by decide) (by decide) (by decide) (by decide)
  rcases exists_ofPolicy_builtin with ⟨auditor, read⟩
  exact ⟨auditor, read, textFindings_reindented read rfl {} "A.swift" unbroken reindented⟩

end Auditor

end Precommit
