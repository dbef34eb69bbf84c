import Precommit.Proofs.Audit.Assembly
import Precommit.Proofs.Check.Breach
import Precommit.Proofs.Check.LineByLine

/-!
# The findings in a text

An audit reports exactly the breaches in the lines of a text, in the order of the
checks, of the lines and of the rules.
-/

namespace Precommit

/-- Where a finding comes from: positions in the lists that an audit goes through. -/
structure Origin where
  candidate : Nat
  check : Nat
  line : Nat
  rule : Nat
deriving DecidableEq, Repr

namespace Origin

def key (origin : Origin) : List Nat :=
  [origin.candidate, origin.check, origin.line, origin.rule]

/-- The lexicographic order. -/
def Before (first second : Origin) : Prop :=
  first.key < second.key

theorem before_iff {first second : Origin} :
    first.Before second ↔
      first.candidate < second.candidate ∨ first.candidate = second.candidate ∧
        (first.check < second.check ∨ first.check = second.check ∧
          (first.line < second.line ∨ first.line = second.line ∧
            first.rule < second.rule)) := by
  simp [Before, key, List.cons_lt_cons_iff]

end Origin

/-- The finding states a breach in the lines of a file. -/
def Finding.States (finding : Finding) (auditor : Auditor) (path : String) (lines : List Line)
    (check : Check) (position : Nat) : Prop :=
  finding.file = path ∧ ∃ before line after,
    lines = before ++ line :: after ∧ finding.line = before.length + 1 ∧
      Breach auditor path before line check position finding.label finding.detail

variable {auditor : Auditor} {path : String}

namespace Check

theorem ascending_lineFindings_of_split (labelled : auditor.rules.Labelled) {check : Check}
    (applies : check.appliesTo auditor.classifier path = true) (candidate index : Nat)
    {lines before after : List Line} {line : Line} (split : lines = before ++ line :: after) :
    Ascending Origin.Before
      (fun origin finding => origin.candidate = candidate ∧ origin.check = index ∧
        origin.line = before.length + 1 ∧ origin.line = finding.line ∧
        finding.States auditor path lines check origin.rule)
      (check.lineFindings auditor path (before.length + 1)
        (decide (0 < Line.depthAfter before)) line) := by
  apply (ascending_lineFindings labelled applies (before.length + 1)).retag
    (fun position => ⟨candidate, index, before.length + 1, position⟩)
  · rintro position finding ⟨file, number, breach⟩
    exact ⟨rfl, rfl, rfl, number.symm, file, before, line, after, split, number, breach⟩
  · intro first second lt
    simp [Origin.before_iff, lt]

/-- The findings of a check come by lines and then by rules, and each states a breach. -/
theorem ascending_findings (labelled : auditor.rules.Labelled) (check : Check)
    (lines : List Line) (candidate index : Nat) :
    Ascending Origin.Before
      (fun origin finding => origin.candidate = candidate ∧ origin.check = index ∧
        origin.line = finding.line ∧ finding.States auditor path lines check origin.rule)
      (check.findings auditor path lines) := by
  unfold findings
  split
  case isFalse => exact .nil
  case isTrue applies =>
    apply (Ascending.flatMap _ _ (fun place _ origin finding =>
      origin.candidate = candidate ∧ origin.check = index ∧ origin.line = place + 1 ∧
        origin.line = finding.line ∧ finding.States auditor path lines check origin.rule)
      ?_ ?_).imp
    · rintro origin finding ⟨place, part, _, holds⟩
      exact ⟨holds.1, holds.2.1, holds.2.2.2⟩
    · intro place part found
      rw [Line.getElem?_zip_insideDebug] at found
      rcases Option.map_eq_some_iff.1 found with ⟨line, listed, rfl⟩
      rcases List.getElem?_eq_some_iff.1 listed with ⟨bound, rfl⟩
      have length : (lines.take place).length = place :=
        List.length_take_of_le (Nat.le_of_lt bound)
      have split : lines = lines.take place ++ lines[place] :: lines.drop (place + 1) := by
        simp
      have tagged := ascending_lineFindings_of_split labelled applies candidate index split
      rw [length] at tagged
      exact tagged
    · rintro place place' part part' first second finding finding' lt _ _
        ⟨candidate_eq, check_eq, line_eq, _⟩ ⟨candidate_eq', check_eq', line_eq', _⟩
      rw [Origin.before_iff]
      omega

theorem exists_states_of_mem_findings (labelled : auditor.rules.Labelled) {check : Check}
    {lines : List Line} {finding : Finding} (member : finding ∈ check.findings auditor path lines) :
    ∃ position, finding.States auditor path lines check position := by
  rcases (ascending_findings labelled check lines 0 0).exists_tag member with
    ⟨origin, _, _, _, states⟩
  exact ⟨origin.rule, states⟩

theorem mem_findings_of_states (labelled : auditor.rules.Labelled) {check : Check}
    {lines : List Line} {position : Nat} {finding : Finding}
    (states : finding.States auditor path lines check position) :
    finding ∈ check.findings auditor path lines := by
  rcases states with ⟨rfl, before, line, after, rfl, number, breach⟩
  have member := breach.mem_lineFindings labelled (before.length + 1)
  rw [← number] at member
  refine mem_findings_iff.2 ⟨breach.appliesTo, before, line, after, rfl, ?_⟩
  rw [← number]
  exact member

end Check

namespace Auditor

/-- The findings in a file are those of the checks in its lines, one check after the other. -/
theorem fileFindings_eq_flatMap (auditor : Auditor) (path : String) (content : Bytes) :
    auditor.fileFindings path content =
      Check.all.flatMap fun check =>
        check.findings auditor path (Text.lines (Text.universalBreaks (Utf8.decodeLossy content))) :=
  rfl

/-- The findings in a text come by checks, lines and rules, and each states a breach. -/
theorem ascending_textFindings (labelled : auditor.rules.Labelled) (text : List Char)
    (candidate : Nat) :
    Ascending Origin.Before
      (fun origin finding => origin.candidate = candidate ∧ origin.line = finding.line ∧
        ∃ check, Check.all[origin.check]? = some check ∧
          finding.States auditor path (Text.lines (Text.universalBreaks text)) check origin.rule)
      (auditor.textFindings path text) := by
  unfold textFindings
  apply (Ascending.flatMap _ _ _
    (fun index check _ => Check.ascending_findings labelled check _ candidate index) ?_).imp
  · rintro origin finding ⟨index, check, found, candidate_eq, rfl, line_eq, states⟩
    exact ⟨candidate_eq, line_eq, check, found, states⟩
  · rintro index index' check check' first second finding finding' lt _ _
      ⟨candidate_eq, check_eq, _⟩ ⟨candidate_eq', check_eq', _⟩
    rw [Origin.before_iff]
    omega

theorem mem_textFindings_iff (labelled : auditor.rules.Labelled) {text : List Char}
    {finding : Finding} :
    finding ∈ auditor.textFindings path text ↔ ∃ check position,
      finding.States auditor path (Text.lines (Text.universalBreaks text)) check position := by
  constructor
  · intro member
    rcases (ascending_textFindings labelled text 0).exists_tag member with
      ⟨origin, _, _, check, _, states⟩
    exact ⟨check, origin.rule, states⟩
  · rintro ⟨check, position, states⟩
    refine List.mem_flatMap.2 ⟨check, ?_, Check.mem_findings_of_states labelled states⟩
    cases check <;> decide

/--
Whatever policy an auditor is read from and however its tables are changed, it finds in a
text exactly the breaches of the lines.
-/
theorem mem_adjust_textFindings_iff {limit : Option Nat} {policy : Policy} {auditor : Auditor}
    (read : ofPolicy policy limit = .ok auditor) (adjustments : Adjustments) (path : String)
    (text : List Char) (finding : Finding) :
    finding ∈ (auditor.adjust adjustments).textFindings path text ↔
      finding.file = path ∧ ∃ before line after,
        Text.lines (Text.universalBreaks text) = before ++ line :: after ∧
          finding.line = before.length + 1 ∧
          ∃ check position, Breach (auditor.adjust adjustments) path before line check position
            finding.label finding.detail := by
  rw [mem_textFindings_iff (labelled_adjust read adjustments)]
  constructor
  · rintro ⟨check, position, file, before, line, after, split, number, breach⟩
    exact ⟨file, before, line, after, split, number, check, position, breach⟩
  · rintro ⟨file, before, line, after, split, number, check, position, breach⟩
    exact ⟨check, position, file, before, line, after, split, number, breach⟩

theorem mem_builtin_textFindings :
    ∃ auditor, ofPolicy {} = .ok auditor ∧
      { label := .forceUnwrap, file := "A.swift", line := 2,
        detail := "Force unwrap operator detected" } ∈
        (auditor.adjust {}).textFindings "A.swift" "let a = 1\r\nlet b = a!".toList := by
  rcases exists_ofPolicy_builtin with ⟨auditor, read⟩
  refine ⟨auditor, read, (mem_adjust_textFindings_iff read _ _ _ _).2 ?_⟩
  obtain rfl := eq_assembled read
  exact ⟨rfl, ["let a = 1".toList], "let b = a!".toList, [], by decide +kernel, rfl,
    .forceUnwrap, 0, .unwrap (by decide +kernel) (by decide +kernel)⟩

end Auditor

end Precommit
