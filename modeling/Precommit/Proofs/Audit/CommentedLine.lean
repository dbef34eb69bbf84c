import Precommit.Proofs.Audit.Exemption
import Precommit.Proofs.Audit.InvalidBytes
import Precommit.Proofs.Pattern.LeadingText
import Precommit.Proofs.Text.LineBreaks

/-!
# Commenting out a line

Two slashes in front of a line silence the checks of source files there and nothing else: the
built-in phrases and secrets pass over the slashes, and a line that opens or closes no debug
block leaves the blocks of the other lines as they are (`textFindings_commented`).
-/

namespace Precommit

namespace Text

theorem trimEnd_cons {character : Char} (visible : Unicode.isBlank character = false)
    (line : List Char) : trimEnd (character :: line) = character :: trimEnd line := by
  unfold trimEnd
  rw [List.reverse_cons, List.dropWhile_append]
  split
  case isTrue empty =>
    rw [List.isEmpty_iff] at empty
    rw [empty, List.dropWhile_cons, visible]
    rfl
  case isFalse => simp

theorem trim_cons {character : Char} (visible : Unicode.isBlank character = false)
    (line : List Char) : trim (character :: line) = character :: trimEnd line := by
  rw [trim, trimStart, List.dropWhile_cons, visible]
  exact trimEnd_cons visible line

end Text

namespace Line

/-- The line with two slashes in front of it. -/
def commented (line : Line) : Line :=
  '/' :: '/' :: line

theorem trim_commented (line : Line) :
    Text.trim line.commented = '/' :: '/' :: Text.trimEnd line := by
  have visible : Unicode.isBlank '/' = false := by decide
  rw [commented, Text.trim_cons visible, Text.trimEnd_cons visible]

theorem isComment_commented (line : Line) : line.commented.isComment = true := by
  rw [isComment, trim_commented]
  simp

theorem isUnbroken_commented {line : Line} (unbroken : Text.IsUnbroken line) :
    Text.IsUnbroken line.commented :=
  .cons (by decide) (by decide) (.cons (by decide) (by decide) unbroken)

theorem debugDepth_commented (line : Line) (depth : Nat) :
    line.commented.debugDepth depth = depth := by
  apply debugDepth_of_neither
  · simp [opensDebug, trim_commented]
  · simp [closesDebug, trim_commented]

end Line

namespace RuleTable

/-- No rule of the table finds a match that begins with the character. -/
def PassesOver (table : RuleTable) (character : Char) : Prop :=
  ∀ rule ∈ table.rules, rule.pattern.passesOver character = true

variable {table : RuleTable} {character : Char}

theorem Lists.passesOver {limit : Option Nat} {caseless : Bool} {texts : List RuleText}
    (lists : table.Lists limit caseless texts)
    (each : (texts.all fun text => Pattern.textPassesOver caseless character text.source) = true) :
    table.PassesOver character :=
  lists.forall_pattern (List.all_eq_true.1 each)

theorem PassesOver.adjust (passes : table.PassesOver character) (adjustment : TableAdjustment) :
    (table.adjust adjustment).PassesOver character :=
  @forall_mem_adjust _ (fun _ pattern => pattern.passesOver character = true) passes adjustment

theorem PassesOver.firing_cons (passes : table.PassesOver character) (line : Line) :
    table.firing (character :: line) = table.firing line :=
  firing_congr fun rule member => Pattern.isMatch_cons (passes rule member) line

end RuleTable

/-- What the rules find in all files is not found at slashes. -/
structure RuleSet.PassesOverSlash (rules : RuleSet) : Prop where
  phrases : rules.forbiddenPhrases.PassesOver '/'
  secrets : rules.secrets.PassesOver '/'
  falsePositive : rules.secretFalsePositive.passesOver '/' = true

namespace RuleSet

variable {limit : Option Nat} {policy : Policy} {rules : RuleSet}

theorem Reads.passesOverSlash (reads : rules.Reads limit policy)
    (builtin : policy.rules.extraForbiddenPhrases = []) : rules.PassesOverSlash := by
  rcases Builtin.texts_passOver_slash with ⟨phrases, secrets, falsePositive⟩
  exact {
    phrases := (reads.builtinPhrases builtin).passesOver phrases
    secrets := reads.secrets.passesOver secrets
    falsePositive := Pattern.passesOver_of_compile? reads.secretFalsePositive falsePositive }

theorem PassesOverSlash.adjust (passes : rules.PassesOverSlash) (adjustments : Adjustments) :
    (rules.adjust adjustments).PassesOverSlash where
  phrases := passes.phrases.adjust _
  secrets := passes.secrets.adjust _
  falsePositive := passes.falsePositive

end RuleSet

variable {auditor : Auditor} {path : String}

namespace Check

/-- The codes of the findings that only source files have. -/
def sourceCodes : List String :=
  ["FU-001", "DA-001", "DP-001", "CB-001"]

variable {check : Check} {number : Nat} {before : List Line} {line : Line}

theorem contains_sourceCodes_eq :
    ∀ label ∈ check.labels, sourceCodes.contains label.id = check.isOfSources := by
  cases check <;> decide

theorem contains_sourceCodes_of_mem_lineFindings (labelled : auditor.rules.Labelled)
    (applies : check.appliesTo auditor.classifier path = true) {finding : Finding}
    (member : finding ∈ check.lineFindings auditor path number
      (decide (0 < Line.depthAfter before)) line) :
    sourceCodes.contains finding.label.id = check.isOfSources := by
  rcases (ascending_lineFindings labelled applies number).exists_tag member with
    ⟨_, _, _, breach⟩
  exact contains_sourceCodes_eq _ breach.label_mem_labels

/-- The checks of source files leave comments alone. -/
theorem lineFindings_of_isComment (ofSources : check.isOfSources = true)
    (isComment : line.isComment = true) (insideDebug : Bool) :
    check.lineFindings auditor path number insideDebug line = [] := by
  cases check with
  | protocolZero | secretLeakage => cases ofSources
  | forceUnwrap =>
      simp [lineFindings, reports, isForceUnwrap, isComment]
  | debugArtifact | bannedApi => simp [lineFindings, considers, isComment]

theorem considers_commented (passes : auditor.rules.PassesOverSlash)
    (ofAll : check.isOfSources = false) (insideDebug : Bool) :
    check.considers auditor.rules insideDebug line.commented =
      check.considers auditor.rules insideDebug line := by
  cases check with
  | forceUnwrap | debugArtifact | bannedApi => cases ofAll
  | protocolZero => rfl
  | secretLeakage =>
      simp only [considers, Line.commented, Pattern.isMatch_cons passes.falsePositive]

theorem reports_commented (passes : auditor.rules.PassesOverSlash)
    (ofAll : check.isOfSources = false) :
    check.reports auditor line.commented = check.reports auditor line := by
  cases check with
  | forceUnwrap | debugArtifact | bannedApi => cases ofAll
  | protocolZero => simp only [reports, Line.commented, passes.phrases.firing_cons]
  | secretLeakage => simp only [reports, Line.commented, passes.secrets.firing_cons]

/-- The checks of all files do not notice slashes in front of a line. -/
theorem lineFindings_commented (passes : auditor.rules.PassesOverSlash)
    (ofAll : check.isOfSources = false) (insideDebug : Bool) :
    check.lineFindings auditor path number insideDebug line.commented =
      check.lineFindings auditor path number insideDebug line := by
  rw [lineFindings, lineFindings, considers_commented passes ofAll, reports_commented passes ofAll]

/-- Another line that acts on debug blocks as the old one did changes only what is found there. -/
theorem findings_set_eq_filter {keeps : Finding → Bool} {index : Nat} {lines : List Line}
    {new : Line}
    (blocks : ∀ old, lines[index]? = some old → ∀ depth,
      new.debugDepth depth = old.debugDepth depth)
    (replaced : ∀ old, lines[index]? = some old →
      check.appliesTo auditor.classifier path = true →
      check.lineFindings auditor path (index + 1)
          (decide (0 < Line.depthAfter (lines.take index))) new =
        (check.lineFindings auditor path (index + 1)
          (decide (0 < Line.depthAfter (lines.take index))) old).filter keeps)
    (others : ∀ finding : Finding, finding.line ≠ index + 1 → keeps finding = true) :
    check.findings auditor path (lines.set index new) =
      (check.findings auditor path lines).filter keeps := by
  unfold findings
  split
  case isFalse => rfl
  case isTrue applies =>
    rw [List.filter_flatMap, List.flatMap_def, List.flatMap_def]
    congr 1
    -- Place by place: every line has kept its number and the blocks that are open over it.
    apply List.ext_getElem?
    intro place
    simp only [List.getElem?_map, Line.getElem?_zip_insideDebug, Option.map_map,
      Function.comp_def, Line.depthAfter_take_set blocks]
    by_cases same : place = index
    · subst same
      rw [List.getElem?_set_self']
      cases listed : lines[place]? with
      | none => rfl
      | some old => exact congrArg some (replaced old listed applies)
    · rw [List.getElem?_set_ne (Ne.symm same)]
      refine congrArg (Option.map · lines[place]?) (funext fun line => ?_)
      rw [eq_comm, List.filter_eq_self]
      intro finding member
      apply others
      rw [(place_of_mem_lineFindings member).2]
      omega

end Check

namespace Auditor

/-- Whether the finding is one of a check of source files on the numbered line. -/
def isOfSourceLine (number : Nat) (finding : Finding) : Bool :=
  finding.line == number && Check.sourceCodes.contains finding.label.id

/-- A check finds with a line commented out what it did, except in source code on that line. -/
theorem findings_commented {check : Check} (labelled : auditor.rules.Labelled)
    (passes : auditor.rules.PassesOverSlash) {lines : List Line} {index : Nat} {line : Line}
    (listed : lines[index]? = some line) (opens : line.opensDebug = false)
    (closes : line.closesDebug = false) :
    check.findings auditor path (lines.set index line.commented) =
      (check.findings auditor path lines).filter fun finding =>
        !isOfSourceLine (index + 1) finding := by
  apply Check.findings_set_eq_filter
  · intro old found depth
    obtain rfl : line = old := by simpa [listed] using found
    rw [Line.debugDepth_commented, Line.debugDepth_of_neither depth opens closes]
  · intro old found applies
    obtain rfl : line = old := by simpa [listed] using found
    have codes (finding : Finding)
        (member : finding ∈ check.lineFindings auditor path (index + 1)
          (decide (0 < Line.depthAfter (lines.take index))) line) :
        isOfSourceLine (index + 1) finding = check.isOfSources := by
      rw [isOfSourceLine, (Check.place_of_mem_lineFindings member).2,
        Check.contains_sourceCodes_of_mem_lineFindings labelled applies member, beq_self_eq_true,
        Bool.true_and]
    cases ofSources : check.isOfSources with
    | true =>
        rw [Check.lineFindings_of_isComment ofSources line.isComment_commented, eq_comm,
          List.filter_eq_nil_iff]
        intro finding member
        rw [codes finding member, ofSources]
        decide
    | false =>
        rw [Check.lineFindings_commented passes ofSources, eq_comm, List.filter_eq_self]
        intro finding member
        rw [codes finding member, ofSources]
        rfl
  · intro finding elsewhere
    simp [isOfSourceLine, elsewhere]

/--
With two slashes in front of a line that is no directive of a debug block, a text has the
findings that it had, in their order, without those of the checks of source files on that
line. So the forbidden phrases and secrets in the text are the same, and all that is found on
other lines. The phrases are the built-in ones, the tables may be adjusted.
-/
theorem textFindings_commented {limit : Option Nat} {policy : Policy} {built : Auditor}
    (read : ofPolicy policy limit = .ok built)
    (builtin : policy.rules.extraForbiddenPhrases = []) (adjustments : Adjustments)
    (path : String) {lines : List Line} (unbroken : ∀ line ∈ lines, Text.IsUnbroken line)
    {index : Nat} (bound : index < lines.length)
    (opens : Text.trim lines[index] ≠ "#if DEBUG".toList)
    (closes : Text.trim lines[index] ≠ "#endif".toList) :
    (built.adjust adjustments).textFindings path
        (List.intercalate ['\n'] (lines.set index ('/' :: '/' :: lines[index]))) =
      ((built.adjust adjustments).textFindings path (List.intercalate ['\n'] lines)).filter
        fun finding =>
          !(finding.line == index + 1 &&
            ["FU-001", "DA-001", "DP-001", "CB-001"].contains finding.label.id) := by
  have reads := (ofPolicy_eq_ok_iff.1 read).1
  have labelled := labelled_adjust read adjustments
  have passes : (built.adjust adjustments).rules.PassesOverSlash :=
    (reads.passesOverSlash builtin).adjust adjustments
  have nonempty : lines ≠ [] := List.ne_nil_of_length_pos (Nat.zero_lt_of_lt bound)
  have member : lines[index] ∈ lines := List.getElem_mem bound
  have unbroken' : ∀ line ∈ lines.set index lines[index].commented, Text.IsUnbroken line := by
    intro line listed
    rcases List.mem_or_eq_of_mem_set listed with listed | rfl
    · exact unbroken line listed
    · exact Line.isUnbroken_commented (unbroken _ member)
  have same := (Text.breaksInto_intercalate unbroken nonempty).eq_lines
  have same' := (Text.breaksInto_intercalate unbroken' (by simpa using nonempty)).eq_lines
  change textFindings _ path (List.intercalate ['\n'] (lines.set index lines[index].commented)) =
    List.filter (fun finding => !isOfSourceLine (index + 1) finding) _
  rw [textFindings, textFindings, ← same, ← same', List.filter_flatMap]
  refine congrArg (List.flatMap · Check.all) (funext fun check => ?_)
  exact findings_commented labelled passes (List.getElem?_eq_getElem bound)
    (decide_eq_false opens) (decide_eq_false closes)

/-- The unwrap goes with the comment mark, and the debug block stays open around the call. -/
theorem textFindings_commented_unwrap :
    ∃ auditor, ofPolicy {} = .ok auditor ∧
      let unwrap : Finding := ⟨.forceUnwrap, "A.swift", 2, "Force unwrap operator detected"⟩
      let old :=
        (auditor.adjust {}).textFindings "A.swift" "#if DEBUG\nlet a = b!\nprint(a)".toList
      let new :=
        (auditor.adjust {}).textFindings "A.swift" "#if DEBUG\n//let a = b!\nprint(a)".toList
      old = [unwrap] ∧ new = [] ∧
        new = old.filter fun finding =>
          !(finding.line == 2 &&
            ["FU-001", "DA-001", "DP-001", "CB-001"].contains finding.label.id) := by
  have unbroken : ∀ line ∈ ["#if DEBUG".toList, "let a = b!".toList, "print(a)".toList],
      Text.IsUnbroken line := by
    unfold Text.IsUnbroken
    decide
  have bound : 1 < 3 := by decide
  have opens : Text.trim "let a = b!".toList ≠ "#if DEBUG".toList := by decide +kernel
  have closes : Text.trim "let a = b!".toList ≠ "#endif".toList := by decide +kernel
  rcases exists_ofPolicy_builtin with ⟨auditor, read⟩
  have commented := textFindings_commented read rfl {} "A.swift" unbroken bound opens closes
  obtain rfl := eq_assembled read
  refine ⟨assembled {}, read, ?_⟩
  intro unwrap old new
  have found : old = [unwrap] := by decide +kernel
  have filtered : new = old.filter fun finding =>
      !(finding.line == 2 &&
        ["FU-001", "DA-001", "DP-001", "CB-001"].contains finding.label.id) := commented
  refine ⟨found, ?_, filtered⟩
  rw [filtered, found]
  decide

end Auditor

end Precommit
