import Mathlib.Data.List.Forall2
import Precommit.Check
import Precommit.Proofs.Text.DebugNesting

/-!
# Checks line by line

What a check finds is found in one line after the other. From one line to the next only the
number of the line and the count of open debug blocks are carried over, so what is found in the
lines from a place on is a recursion with these two (`findingsFrom`).
-/

namespace Precommit

/-- The finding with its line that many lines further on. -/
def Finding.moved (count : Nat) (finding : Finding) : Finding :=
  { finding with line := finding.line + count }

namespace Check

variable {auditor : Auditor} {path : String} {check : Check}

/-! ### One line -/

/-- All checks but one judge a line whether or not it is inside a debug block. -/
theorem lineFindings_insideDebug (linewise : check ≠ .debugArtifact) (number : Nat)
    (insideDebug : Bool) (line : Line) :
    check.lineFindings auditor path number insideDebug line =
      check.lineFindings auditor path number false line := by
  cases check with
  | debugArtifact => exact absurd rfl linewise
  | _ => rfl

theorem place_of_mem_lineFindings {number : Nat} {insideDebug : Bool} {line : Line}
    {finding : Finding}
    (member : finding ∈ check.lineFindings auditor path number insideDebug line) :
    finding.file = path ∧ finding.line = number := by
  unfold lineFindings at member
  split at member
  · rcases List.mem_map.1 member with ⟨report, _, rfl⟩
    exact ⟨rfl, rfl⟩
  · cases member

theorem lineFindings_add (number count : Nat) (insideDebug : Bool) (line : Line) :
    check.lineFindings auditor path (number + count) insideDebug line =
      (check.lineFindings auditor path number insideDebug line).map (Finding.moved count) := by
  unfold lineFindings
  split
  · simp [Function.comp_def, Finding.moved]
  · rfl

/-- Inside of a block no check finds more on a line than outside. -/
theorem sublist_lineFindings {insideDebug insideDebug' : Bool}
    (inner : insideDebug = true → insideDebug' = true) (number : Nat) (line : Line) :
    (check.lineFindings auditor path number insideDebug' line).Sublist
      (check.lineFindings auditor path number insideDebug line) := by
  cases check with
  | debugArtifact =>
      cases insideDebug' with
      | true => simp [lineFindings, considers]
      | false =>
          obtain rfl : insideDebug = false := by simpa using inner
          exact List.Sublist.refl _
  | _ => exact List.Sublist.refl _

/-! ### Lines from a place on -/

/-- What a check finds in lines if the first one has a number and `depth` blocks are open. -/
def findingsFrom (check : Check) (auditor : Auditor) (path : String) (number depth : Nat) :
    List Line → List Finding
  | [] => []
  | line :: rest =>
      check.lineFindings auditor path number (0 < depth) line ++
        check.findingsFrom auditor path (number + 1) (line.debugDepth depth) rest

theorem findings_eq_findingsFrom (applies : check.appliesTo auditor.classifier path = true)
    (lines : List Line) :
    check.findings auditor path lines = check.findingsFrom auditor path 1 0 lines := by
  have onwards (number depth : Nat) :
      (((List.range' number lines.length).zip lines).zip
          (Line.insideDebugFrom depth lines)).flatMap
        (fun part => check.lineFindings auditor path part.1.1 part.2 part.1.2) =
      check.findingsFrom auditor path number depth lines := by
    induction lines generalizing number depth with
    | nil => rfl
    | cons line rest ih =>
        simp only [List.length_cons, List.range'_succ, List.zip_cons_cons, Line.insideDebugFrom,
          List.flatMap_cons, findingsFrom, ih]
  rw [findings, if_pos applies]
  exact onwards 1 0

theorem findingsFrom_append (number depth : Nat) (before after : List Line) :
    check.findingsFrom auditor path number depth (before ++ after) =
      check.findingsFrom auditor path number depth before ++
        check.findingsFrom auditor path (number + before.length)
          (before.foldl Line.debugDepth depth) after := by
  induction before generalizing number depth with
  | nil => rfl
  | cons line rest ih =>
      simp [findingsFrom, ih, Nat.add_assoc, Nat.add_comm 1]

theorem findingsFrom_add (number count depth : Nat) (lines : List Line) :
    check.findingsFrom auditor path (number + count) depth lines =
      (check.findingsFrom auditor path number depth lines).map (Finding.moved count) := by
  induction lines generalizing number depth with
  | nil => rfl
  | cons line rest ih =>
      rw [findingsFrom, findingsFrom, List.map_append, lineFindings_add, Nat.add_right_comm, ih]

/-- The more blocks are open at the start, the less is found. -/
theorem sublist_findingsFrom {depth depth' : Nat} (le : depth ≤ depth') (number : Nat)
    (lines : List Line) :
    (check.findingsFrom auditor path number depth' lines).Sublist
      (check.findingsFrom auditor path number depth lines) := by
  induction lines generalizing number depth depth' with
  | nil => exact List.Sublist.refl _
  | cons line rest ih =>
      apply List.Sublist.append
      · apply sublist_lineFindings
        simp only [decide_eq_true_eq]
        omega
      · apply ih
        exact Line.debugDepth_mono le line

theorem findingsFrom_depth (linewise : check ≠ .debugArtifact) (number depth depth' : Nat)
    (lines : List Line) :
    check.findingsFrom auditor path number depth lines =
      check.findingsFrom auditor path number depth' lines := by
  induction lines generalizing number depth depth' with
  | nil => rfl
  | cons line rest ih =>
      rw [findingsFrom, findingsFrom, lineFindings_insideDebug linewise,
        ih _ _ (line.debugDepth depth'), ← lineFindings_insideDebug linewise]

/--
What a check finds in lines depends on what it finds in each, and on how each acts on debug blocks
if the check takes notice of them.
-/
theorem findings_congr {Related : Line → Line → Prop} {lines lines' : List Line}
    (related : List.Forall₂ Related lines lines')
    (blocks : check = .debugArtifact → ∀ {line line'}, Related line line' → ∀ depth,
      line.debugDepth depth = line'.debugDepth depth)
    (found : ∀ {line line'}, Related line line' → ∀ number insideDebug,
      check.lineFindings auditor path number insideDebug line =
        check.lineFindings auditor path number insideDebug line') :
    check.findings auditor path lines = check.findings auditor path lines' := by
  have onwards (number depth : Nat) :
      check.findingsFrom auditor path number depth lines =
        check.findingsFrom auditor path number depth lines' := by
    induction related generalizing number depth with
    | nil => rfl
    | @cons line line' rest rest' same _ ih =>
        have later : check.findingsFrom auditor path (number + 1) (line.debugDepth depth) rest' =
            check.findingsFrom auditor path (number + 1) (line'.debugDepth depth) rest' := by
          by_cases isDebug : check = .debugArtifact
          · rw [blocks isDebug same]
          · exact findingsFrom_depth isDebug _ _ _ _
        rw [findingsFrom, findingsFrom, found same, ih, later]
  by_cases applies : check.appliesTo auditor.classifier path = true
  · rw [findings_eq_findingsFrom applies, findings_eq_findingsFrom applies]
    exact onwards 1 0
  · simp [findings, applies]

theorem mem_findings_iff {lines : List Line} {finding : Finding} :
    finding ∈ check.findings auditor path lines ↔
      check.appliesTo auditor.classifier path = true ∧ ∃ before line after,
        lines = before ++ line :: after ∧
          finding ∈ check.lineFindings auditor path (before.length + 1)
            (0 < Line.depthAfter before) line := by
  unfold findings
  constructor
  · intro member
    split at member
    case isFalse => cases member
    case isTrue applies =>
      rcases List.mem_flatMap.1 member with ⟨part, listed, found⟩
      rcases Line.exists_split_of_mem_zip listed with ⟨before, line, after, split, rfl⟩
      exact ⟨applies, before, line, after, split, found⟩
  · rintro ⟨applies, before, line, after, rfl, found⟩
    rw [if_pos applies]
    exact List.mem_flatMap.2 ⟨_, Line.mem_zip_insideDebug before line after, found⟩

/-! ### One line among others -/

theorem place_of_mem_findingsFrom {number depth : Nat} {lines : List Line} {finding : Finding}
    (member : finding ∈ check.findingsFrom auditor path number depth lines) :
    number ≤ finding.line ∧ finding.line < number + lines.length := by
  induction lines generalizing number depth with
  | nil => cases member
  | cons line rest ih =>
      rw [List.length_cons]
      rcases List.mem_append.1 member with here | later
      · have place := (place_of_mem_lineFindings here).2
        omega
      · have place := ih later
        omega

/-- A check that finds at most one thing on a line finds them line after line. -/
theorem pairwise_findings
    (single : ∀ line, (check.reports auditor line).length ≤ 1) (lines : List Line) :
    (check.findings auditor path lines).Pairwise fun finding finding' =>
      finding.line < finding'.line := by
  have here (number : Nat) (insideDebug : Bool) (line : Line) :
      (check.lineFindings auditor path number insideDebug line).Pairwise
        fun finding finding' => finding.line < finding'.line := by
    unfold lineFindings
    split
    case isFalse => exact .nil
    case isTrue =>
      cases found : check.reports auditor line with
      | nil => exact .nil
      | cons report rest =>
          have length := single line
          rw [found, List.length_cons] at length
          obtain rfl : rest = [] := List.eq_nil_of_length_eq_zero (by omega)
          exact List.pairwise_singleton _ _
  have onwards (number depth : Nat) :
      (check.findingsFrom auditor path number depth lines).Pairwise
        fun finding finding' => finding.line < finding'.line := by
    induction lines generalizing number depth with
    | nil => exact .nil
    | cons line rest ih =>
        refine List.pairwise_append.2 ⟨here number _ line, ih _ _, ?_⟩
        intro finding member finding' member'
        have place := (place_of_mem_lineFindings member).2
        have place' := place_of_mem_findingsFrom member'
        omega
  by_cases applies : check.appliesTo auditor.classifier path = true
  · rw [findings_eq_findingsFrom applies]
    exact onwards 1 0
  · rw [findings, if_neg applies]
    exact .nil

/-- What a check finds in one line among others. -/
theorem filter_findings_line (before : List Line) (line : Line) (after : List Line) :
    (check.findings auditor path (before ++ line :: after)).filter
        (fun finding => finding.line == before.length + 1) =
      if check.appliesTo auditor.classifier path then
        check.lineFindings auditor path (before.length + 1) (0 < Line.depthAfter before) line
      else [] := by
  split
  case isFalse applies => simp [findings, applies]
  case isTrue applies =>
    rw [findings_eq_findingsFrom applies, findingsFrom_append, findingsFrom, List.filter_append,
      List.filter_append, Nat.add_comm 1]
    have earlier : (check.findingsFrom auditor path 1 0 before).filter
        (fun finding => finding.line == before.length + 1) = [] := by
      rw [List.filter_eq_nil_iff]
      intro finding member
      have place := place_of_mem_findingsFrom member
      rw [beq_iff_eq]
      omega
    have here (insideDebug : Bool) :
        (check.lineFindings auditor path (before.length + 1) insideDebug line).filter
          (fun finding => finding.line == before.length + 1) =
        check.lineFindings auditor path (before.length + 1) insideDebug line := by
      rw [List.filter_eq_self]
      intro finding member
      rw [beq_iff_eq]
      exact (place_of_mem_lineFindings member).2
    have later (depth : Nat) :
        (check.findingsFrom auditor path (before.length + 1 + 1) depth after).filter
          (fun finding => finding.line == before.length + 1) = [] := by
      rw [List.filter_eq_nil_iff]
      intro finding member
      have place := place_of_mem_findingsFrom member
      rw [beq_iff_eq]
      omega
    rw [earlier, here, later, List.nil_append, List.append_nil]
    rfl

/-- The check finds something in the line of that number. -/
def FindsAt (check : Check) (auditor : Auditor) (path : String) (lines : List Line)
    (number : Nat) : Prop :=
  ∃ finding ∈ check.findings auditor path lines, finding.line = number

theorem findsAt_iff (before : List Line) (line : Line) (after : List Line) :
    check.FindsAt auditor path (before ++ line :: after) (before.length + 1) ↔
      check.appliesTo auditor.classifier path = true ∧
        check.considers auditor.rules (0 < Line.depthAfter before) line = true ∧
        check.reports auditor line ≠ [] := by
  have selected : check.FindsAt auditor path (before ++ line :: after) (before.length + 1) ↔
      (check.findings auditor path (before ++ line :: after)).filter
        (fun finding => finding.line == before.length + 1) ≠ [] := by
    simp [FindsAt]
  rw [selected, filter_findings_line, lineFindings]
  cases check.appliesTo auditor.classifier path <;>
    cases check.considers auditor.rules (0 < Line.depthAfter before) line <;> simp

end Check

end Precommit
