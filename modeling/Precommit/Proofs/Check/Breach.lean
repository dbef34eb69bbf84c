import Precommit.Check
import Precommit.Proofs.Rule.Assembly
import Precommit.Proofs.Rule.Firing
import Precommit.Proofs.Text.DebugBlock

/-!
# Breaches of the policy

What each check has against a line of a file: which files and lines it judges, which
rule of its table the line falls under and what is reported. The findings of a check
on a line are its breaches there, in the order of the table.
-/

namespace Precommit

/--
A check has something against a line that stands after the lines `before` of a file. The
position is that of the rule in the table of the check.
-/
inductive Breach (auditor : Auditor) (path : String) (before : List Line) (line : Line) :
    Check → Nat → Label → String → Prop
  | phrase {position : Nat} {rule : Rule}
      (judged : auditor.classifier.isGovernanceFile path = false)
      (reports : auditor.rules.forbiddenPhrases.ReportsAt line position rule) :
      Breach auditor path before line .protocolZero position .protocolZero
        (rule.message ++ ": " ++ rule.source)
  | unwrap
      (isSource : auditor.classifier.isSourceFile path = true)
      (unwraps : Check.isForceUnwrap auditor.rules line = true) :
      Breach auditor path before line .forceUnwrap 0 .forceUnwrap
        "Force unwrap operator detected"
  | call {position : Nat} {rule : Rule}
      (isSource : auditor.classifier.isSourceFile path = true)
      (notTest : auditor.classifier.isTestFile path = false)
      (notComment : line.isComment = false)
      (outside : ¬Line.DebugOpen before)
      (reports : auditor.rules.debugCalls.ReportsAt line position rule) :
      Breach auditor path before line .debugArtifact position .debugArtifact
        (rule.message ++ ": " ++
          String.ofList (Text.excerpt auditor.excerptLength (Text.trim line)))
  | api {position : Nat} {rule : Rule}
      (isSource : auditor.classifier.isSourceFile path = true)
      (notComment : line.isComment = false)
      (kind : rule.label = .deprecatedApi ∨ rule.label = .combineUsage)
      (reports : auditor.rules.bannedApis.ReportsAt line position rule) :
      Breach auditor path before line .bannedApi position rule.label rule.message
  | secret {position : Nat} {rule : Rule}
      (judged : auditor.classifier.isGovernanceFile path = false)
      (notExempt : auditor.classifier.isSecretExempt path = false)
      (trueAlarm : ¬auditor.rules.secretFalsePositive.Matches line)
      (reports : auditor.rules.secrets.ReportsAt line position rule) :
      Breach auditor path before line .secretLeakage position .secretLeakage rule.message

variable {auditor : Auditor} {path : String} {before : List Line} {line : Line}

namespace RuleTable

theorem ReportsAt.mem_rules {table : RuleTable} {position : Nat} {rule : Rule}
    (reports : table.ReportsAt line position rule) : rule ∈ table.rules :=
  List.mem_of_getElem? reports.listed

theorem ReportsAt.mem_firing {table : RuleTable} {position : Nat} {rule : Rule}
    (reports : table.ReportsAt line position rule) : rule ∈ table.firing line :=
  mem_firing_iff.2 ⟨position, reports⟩

theorem ascending_map_firing (table : RuleTable) (report : Rule → Label × String) :
    Ascending (· < ·)
      (fun position reported => ∃ rule, table.ReportsAt line position rule ∧
        reported = report rule)
      ((table.firing line).map report) :=
  ascending_firing.map id report (fun _ rule reports => ⟨rule, reports, rfl⟩) fun _ _ => id

end RuleTable

namespace Breach

variable {check : Check} {position : Nat} {label : Label} {detail : String}

theorem appliesTo (breach : Breach auditor path before line check position label detail) :
    check.appliesTo auditor.classifier path = true := by
  cases breach with
  | phrase judged => simp [Check.appliesTo, judged]
  | unwrap isSource => exact isSource
  | call isSource notTest => simp [Check.appliesTo, isSource, notTest]
  | api isSource => exact isSource
  | secret judged notExempt => simp [Check.appliesTo, judged, notExempt]

theorem considers (breach : Breach auditor path before line check position label detail) :
    check.considers auditor.rules (decide (0 < Line.depthAfter before)) line = true := by
  cases breach with
  | phrase => rfl
  | unwrap => rfl
  | call _ _ notComment outside =>
      rw [← Line.depthAfter_pos_iff] at outside
      simp [Check.considers, notComment, outside]
  | api _ notComment => simp [Check.considers, notComment]
  | secret _ _ trueAlarm =>
      rw [← Pattern.isMatch_iff] at trueAlarm
      simpa [Check.considers] using trueAlarm

theorem mem_reports (labelled : auditor.rules.Labelled)
    (breach : Breach auditor path before line check position label detail) :
    (label, detail) ∈ check.reports auditor line := by
  cases breach with
  | phrase _ reports =>
      refine List.mem_map.2 ⟨_, reports.mem_firing, ?_⟩
      rw [labelled.phrases _ reports.mem_rules]
  | unwrap _ unwraps => simp [Check.reports, unwraps]
  | call _ _ _ _ reports =>
      refine List.mem_map.2 ⟨_, reports.mem_firing, ?_⟩
      rw [labelled.calls _ reports.mem_rules]
  | api _ _ _ reports => exact List.mem_map.2 ⟨_, reports.mem_firing, rfl⟩
  | secret _ _ _ reports =>
      refine List.mem_map.2 ⟨_, reports.mem_firing, ?_⟩
      rw [labelled.secrets _ reports.mem_rules]

theorem mem_lineFindings (labelled : auditor.rules.Labelled)
    (breach : Breach auditor path before line check position label detail) (number : Nat) :
    { label := label, file := path, line := number, detail := detail } ∈
      check.lineFindings auditor path number (decide (0 < Line.depthAfter before)) line := by
  rw [Check.lineFindings, if_pos breach.considers]
  exact List.mem_map.2 ⟨(label, detail), breach.mem_reports labelled, rfl⟩

end Breach

namespace Check

/-- The labels under which the check reports. -/
def labels : Check → List Label
  | .protocolZero => [.protocolZero]
  | .forceUnwrap => [.forceUnwrap]
  | .debugArtifact => [.debugArtifact]
  | .bannedApi => [.deprecatedApi, .combineUsage]
  | .secretLeakage => [.secretLeakage]

theorem id_ne_commitMessage {check : Check} :
    ∀ label ∈ check.labels, label.id ≠ Label.commitMessage.id := by
  cases check <;> decide

end Check

theorem Breach.label_mem_labels {check : Check} {position : Nat} {label : Label}
    {detail : String} (breach : Breach auditor path before line check position label detail) :
    label ∈ check.labels := by
  cases breach with
  | phrase | unwrap | call | secret => exact List.mem_singleton_self _
  | api _ _ kind =>
      rcases kind with kind | kind
      · rw [kind]
        exact List.mem_cons_self
      · rw [kind]
        exact List.mem_cons_of_mem _ (List.mem_singleton_self _)

namespace Check

/-- What a check reports for a line that it judges are its breaches there. -/
theorem ascending_reports (labelled : auditor.rules.Labelled) {check : Check}
    (applies : check.appliesTo auditor.classifier path = true)
    (considers :
      check.considers auditor.rules (decide (0 < Line.depthAfter before)) line = true) :
    Ascending (· < ·)
      (fun position report =>
        Breach auditor path before line check position report.1 report.2)
      (check.reports auditor line) := by
  cases check with
  | protocolZero =>
      apply (RuleTable.ascending_map_firing auditor.rules.forbiddenPhrases _).imp
      rintro position _ ⟨rule, reports, rfl⟩
      rw [labelled.phrases rule reports.mem_rules]
      exact .phrase (by simpa [appliesTo] using applies) reports
  | forceUnwrap =>
      simp only [reports]
      split
      · rename_i unwraps
        exact .singleton (.unwrap applies unwraps)
      · exact .nil
  | debugArtifact =>
      simp only [appliesTo, Bool.and_eq_true, Bool.not_eq_true'] at applies
      simp only [Check.considers, Bool.and_eq_true, Bool.not_eq_true', decide_eq_false_iff_not,
        Line.depthAfter_pos_iff] at considers
      apply (RuleTable.ascending_map_firing auditor.rules.debugCalls _).imp
      rintro position _ ⟨rule, reports, rfl⟩
      rw [labelled.calls rule reports.mem_rules]
      exact .call applies.1 applies.2 considers.2 considers.1 reports
  | bannedApi =>
      simp only [Check.considers, Bool.not_eq_true'] at considers
      apply (RuleTable.ascending_map_firing auditor.rules.bannedApis _).imp
      rintro position _ ⟨rule, reports, rfl⟩
      exact .api applies considers (labelled.apis rule reports.mem_rules) reports
  | secretLeakage =>
      simp only [appliesTo, Bool.and_eq_true, Bool.not_eq_true'] at applies
      simp only [Check.considers, Bool.not_eq_true', ← Bool.not_eq_true,
        Pattern.isMatch_iff] at considers
      apply (RuleTable.ascending_map_firing auditor.rules.secrets _).imp
      rintro position _ ⟨rule, reports, rfl⟩
      rw [labelled.secrets rule reports.mem_rules]
      exact .secret applies.1 applies.2 considers reports

theorem ascending_lineFindings (labelled : auditor.rules.Labelled) {check : Check}
    (applies : check.appliesTo auditor.classifier path = true) (number : Nat) :
    Ascending (· < ·)
      (fun position finding => finding.file = path ∧ finding.line = number ∧
        Breach auditor path before line check position finding.label finding.detail)
      (check.lineFindings auditor path number (decide (0 < Line.depthAfter before)) line) := by
  unfold lineFindings
  split
  · rename_i considers
    exact (ascending_reports labelled applies considers).map id _
      (fun _ _ breach => ⟨rfl, rfl, breach⟩) fun _ _ => id
  · exact .nil

end Check

end Precommit
