import Precommit.Proofs.Audit.Assembly
import Precommit.Proofs.Check.ForceUnwrap
import Precommit.Proofs.Check.LineByLine
import Precommit.Proofs.Pattern.WordEdges
import Precommit.Proofs.Rule.Firing

/-!
# Diagnostic output, character by character

Four patterns say which lines write diagnostic output. Said without patterns: a name of a
function that writes stands after a character that is none of a word, or at the start, and
before a parenthesis, with blanks between them or not. Such a line is reported once, unless it
is inside a debug block or a comment (`findings_debugArtifact_iff`).
-/

namespace Precommit

open Pattern

namespace Builtin

/-- The functions that write diagnostic output. -/
def debugFunctions : List String :=
  ["print", "debugPrint", "NSLog", "dump"]

def callPattern (function : String) : Pattern :=
  sequenceAll (edge :: ((function.toList.map fun character => .char (.single character)) ++
    [Pattern.star (.char .blank), .char (.single '(')]))

theorem parse?_debugCalls :
    debugCalls.map (fun text => parse? {} text.source.toList) =
      (debugFunctions.map callPattern).map some := by
  simp only [Utf8.toList_eq_decode]
  decide +kernel

end Builtin

namespace Line

/--
The line calls a function that writes diagnostic output: its name, with no word character before
it, any blanks and an opening parenthesis.
-/
def HasDebugCall (line : Line) : Prop :=
  ∃ before function blanks after, line = before ++ function.toList ++ blanks ++ '(' :: after ∧
    function ∈ Builtin.debugFunctions ∧
    (∀ previous, before.getLast? = some previous → Unicode.isWord previous = false) ∧
    ∀ character ∈ blanks, Unicode.isBlank character = true

variable {line : Line}

theorem isMatch_callPattern_iff {function : String}
    (starts : function.toList.head?.any Unicode.isWord = true) :
    (Builtin.callPattern function).isMatch line = true ↔
      ∃ before blanks after, line = before ++ function.toList ++ blanks ++ '(' :: after ∧
        (∀ previous, before.getLast? = some previous → Unicode.isWord previous = false) ∧
        ∀ character ∈ blanks, Unicode.isBlank character = true := by
  have call := (describes_star_char .blank).cons (describes_char (.single '(')).last
  rw [Builtin.callPattern, isMatch_edge_text_iff starts call]
  simp only [mem_mul_iff_split, CharSet.mem_many_iff, CharSet.mem_one_iff,
    CharSet.contains_single_iff, exists_eq_left, Option.any_eq_false]
  constructor
  · rintro ⟨before, _, after, rfl, edge, blanks, _, rfl, ⟨_, areBlank⟩, rfl⟩
    exact ⟨before, blanks, after, by simp, edge, areBlank⟩
  · rintro ⟨before, blanks, after, rfl, edge, areBlank⟩
    exact ⟨before, _, after, by simp, edge, blanks, _, rfl, ⟨Nat.zero_le _, areBlank⟩, rfl⟩

theorem any_callPattern_iff :
    (Builtin.debugFunctions.map Builtin.callPattern).any (·.isMatch line) = true ↔
      line.HasDebugCall := by
  have each : ∀ function ∈ Builtin.debugFunctions,
      function.toList.head?.any Unicode.isWord = true := by
    decide +kernel
  rw [List.any_map, List.any_eq_true]
  constructor
  · rintro ⟨function, listed, found⟩
    rcases (isMatch_callPattern_iff (each function listed)).1 found with
      ⟨before, blanks, after, split, edge, areBlank⟩
    exact ⟨before, function, blanks, after, split, listed, edge, areBlank⟩
  · rintro ⟨before, function, blanks, after, split, listed, edge, areBlank⟩
    exact ⟨function, listed, (isMatch_callPattern_iff (each function listed)).2
      ⟨before, blanks, after, split, edge, areBlank⟩⟩

end Line

namespace Check

variable {limit : Option Nat} {policy : Policy} {auditor : Auditor} {path : String}

/-- Which of the functions is called makes no difference. -/
theorem reports_debugArtifact (reads : auditor.rules.Reads limit policy) (line : Line) :
    debugArtifact.reports auditor line =
      if (Builtin.debugFunctions.map Builtin.callPattern).any (·.isMatch line) then
        [(.debugArtifact, "Debug statement detected: " ++
          String.ofList ((Text.trim line).take auditor.excerptLength))]
      else [] := by
  have rules_eq := reads.calls.rules_eq Builtin.parse?_debugCalls
  -- The four rules differ in their patterns only.
  have alike : ∀ rule ∈ auditor.rules.debugCalls.rules,
      (rule.label, rule.message ++ ": " ++
        String.ofList (Text.excerpt auditor.excerptLength (Text.trim line))) =
      (.debugArtifact, "Debug statement detected: " ++
        String.ofList ((Text.trim line).take auditor.excerptLength)) := by
    intro rule member
    rcases List.mem_map.1 (reads.calls.exists_text member) with ⟨source, _, text_eq⟩
    have label : rule.label = .debugArtifact := congrArg RuleText.label text_eq.symm
    have message : rule.message = "Debug statement detected" :=
      congrArg RuleText.message text_eq.symm
    rw [label, message]
    rfl
  rw [reports, RuleTable.map_firing_of_alike reads.callMode alike, rules_eq]
  rfl

theorem mem_reports_debugArtifact_iff (reads : auditor.rules.Reads limit policy) {line : Line}
    {report : Label × String} :
    report ∈ debugArtifact.reports auditor line ↔ line.HasDebugCall ∧
      report = (.debugArtifact, "Debug statement detected: " ++
        String.ofList ((Text.trim line).take auditor.excerptLength)) := by
  rw [reports_debugArtifact reads, ← Line.any_callPattern_iff]
  split
  case isTrue called => rw [List.mem_singleton, and_iff_right called]
  case isFalse called => exact iff_of_false List.not_mem_nil fun reported => called reported.1

theorem mem_lineFindings_debugArtifact_iff (reads : auditor.rules.Reads limit policy)
    {number : Nat} {insideDebug : Bool} {line : Line} {finding : Finding} :
    finding ∈ debugArtifact.lineFindings auditor path number insideDebug line ↔
      insideDebug = false ∧ ¬"//".toList <+: Text.trim line ∧ line.HasDebugCall ∧
        finding =
          { label := .debugArtifact, file := path, line := number,
            detail := "Debug statement detected: " ++
              String.ofList ((Text.trim line).take auditor.excerptLength) } := by
  have considered : debugArtifact.considers auditor.rules insideDebug line = true ↔
      insideDebug = false ∧ ¬"//".toList <+: Text.trim line := by
    rw [considers, Bool.and_eq_true, Bool.not_eq_true', Bool.not_eq_true', ← Line.isComment_iff,
      Bool.not_eq_true]
  rw [lineFindings, ← and_assoc, ← considered]
  split
  case isFalse skipped => exact iff_of_false List.not_mem_nil fun found => skipped found.1
  case isTrue looked =>
    rw [and_iff_right looked, List.mem_map]
    simp only [mem_reports_debugArtifact_iff reads]
    constructor
    · rintro ⟨_, ⟨called, rfl⟩, rfl⟩
      exact ⟨called, rfl⟩
    · rintro ⟨called, rfl⟩
      exact ⟨_, ⟨called, rfl⟩, rfl⟩

/--
In a source file that is not a test, a line is reported if it is flagged as outside of debug
blocks, is no comment and calls a function that writes diagnostic output. There is one finding
for such a line however many calls it has, and none for any other.
-/
theorem findings_debugArtifact_iff (read : Auditor.ofPolicy policy limit = .ok auditor)
    (isSource : auditor.classifier.isSourceFile path = true)
    (notTest : auditor.classifier.isTestFile path = false) (lines : List Line) :
    let found := debugArtifact.findings auditor path lines
    found.Pairwise (fun finding finding' => finding.line < finding'.line) ∧
      ∀ finding, finding ∈ found ↔ ∃ before, ∃ line : Line, ∃ after, lines = before ++ line :: after ∧
        (Line.insideDebug lines)[before.length]? = some false ∧
        ¬"//".toList <+: Text.trim line ∧ line.HasDebugCall ∧
        finding =
          { label := .debugArtifact, file := path, line := before.length + 1,
            detail := "Debug statement detected: " ++
              String.ofList ((Text.trim line).take policy.scan.excerptLength) } := by
  rcases Auditor.ofPolicy_eq_ok_iff.1 read with ⟨reads, _, excerptLength⟩
  have applies : debugArtifact.appliesTo auditor.classifier path = true := by
    simp [appliesTo, isSource, notTest]
  constructor
  · apply pairwise_findings
    intro line
    rw [reports_debugArtifact reads]
    split <;> simp
  · intro finding
    rw [← excerptLength, mem_findings_iff]
    simp only [mem_lineFindings_debugArtifact_iff reads]
    constructor
    · rintro ⟨_, before, line, after, rfl, outside, called⟩
      refine ⟨before, line, after, rfl, ?_, called⟩
      rw [Line.getElem?_insideDebug_length, outside]
    · rintro ⟨before, line, after, rfl, flag, called⟩
      rw [Line.getElem?_insideDebug_length] at flag
      exact ⟨applies, before, line, after, rfl, Option.some.inj flag, called⟩

/-- Behind the end of a block, an ideographic space before the parenthesis is a blank. -/
theorem findings_debugArtifact_iff_blank :
    ∃ auditor, Auditor.ofPolicy {} = .ok auditor ∧
      let lines := ["#if DEBUG".toList, "print(1)".toList, "#endif".toList,
        "  blueprint(1).dump\u3000(2)".toList]
      { label := .debugArtifact, file := "A.swift", line := 4,
        detail := "Debug statement detected: blueprint(1).dump\u3000(2)" } ∈
          debugArtifact.findings auditor "A.swift" lines := by
  rcases Auditor.exists_ofPolicy_builtin with ⟨auditor, read⟩
  obtain rfl := Auditor.eq_assembled read
  refine ⟨.assembled {}, read, ?_⟩
  intro lines
  have isSource : (Classifier.assembled {}).isSourceFile "A.swift" = true := by decide +kernel
  have notTest : (Classifier.assembled {}).isTestFile "A.swift" = false := by decide +kernel
  apply ((findings_debugArtifact_iff read isSource notTest lines).2 _).2
  refine ⟨lines.take 3, "  blueprint(1).dump\u3000(2)".toList, [], rfl, ?_, ?_, ?_, ?_⟩
  · decide +kernel
  · decide +kernel
  · refine ⟨"  blueprint(1).".toList, "dump", ['\u3000'], "2)".toList, rfl, by decide, ?_, ?_⟩
    · rintro previous ⟨⟩
      decide +kernel
    · exact List.forall_mem_singleton.2 (by decide +kernel)
  · decide +kernel

end Check

end Precommit
