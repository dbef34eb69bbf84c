import Precommit.Audit
import Precommit.Proofs.Rule.Builtin

/-!
# Auditors of a policy

An auditor is read from a policy exactly if its rules and its globs are, and the rules
of an auditor keep the labels of their checks when the tables are changed. What a policy
says determines the auditor (`Auditor.eq_assembled`), so its audits can be evaluated.
-/

namespace Precommit

variable {limit : Option Nat}

namespace Classifier

theorem readGlob_eq_ok_iff {text : String} {glob : Glob} :
    readGlob text = .ok glob ↔ Glob.parse? text.toList = some glob := by
  unfold readGlob
  cases Glob.parse? text.toList <;> simp

theorem ofPolicy_eq_ok_iff {scan : ScanPolicy} {classifier : Classifier} :
    ofPolicy scan limit = .ok classifier ↔
      classifier.scan = scan ∧
        List.Forall₂ (fun text glob => Glob.parse? text.toList = some glob) scan.secretExempt
          classifier.secretExempt ∧
        Glob.areBuildable limit classifier.secretExempt = true := by
  simp only [ofPolicy, bind_eq_ok_iff, mapM_eq_ok_iff, readGlob_eq_ok_iff]
  constructor
  · rintro ⟨globs, read, built⟩
    split at built
    · rename_i buildable
      rw [pure_eq_ok_iff] at built
      rcases built with rfl
      exact ⟨rfl, read, buildable⟩
    · cases built
  · rintro ⟨rfl, read, buildable⟩
    refine ⟨classifier.secretExempt, read, ?_⟩
    rw [if_pos buildable]
    rfl

/-- The classifier of a scan section, provided that its globs can be read. -/
def assembled (scan : ScanPolicy) : Classifier where
  scan := scan
  secretExempt := scan.secretExempt.filterMap fun text => Glob.parse? text.toList

theorem eq_assembled {scan : ScanPolicy} {classifier : Classifier}
    (read : ofPolicy scan limit = .ok classifier) : classifier = assembled scan := by
  rcases ofPolicy_eq_ok_iff.1 read with ⟨rfl, globs, _⟩
  rw [assembled, filterMap_eq_of_forall₂ globs]

theorem exists_ofPolicy_builtin : ∃ classifier, ofPolicy {} = .ok classifier := by
  have first : ((Glob.parse? "docs/**".toList).any fun glob => glob.form == .text) = true := by
    decide +kernel
  have second : ((Glob.parse? ".claude/skills/**/references/**".toList).any fun glob =>
      glob.form == .general && decide (glob.nesting ≤ Pattern.Expression.depthLimit) &&
        glob.plan.isRoomy Pattern.sizeLimit true) = true := by
    decide +kernel
  rcases (Option.any_eq_true _ _).1 first with ⟨docs, docs_eq, text⟩
  rcases (Option.any_eq_true _ _).1 second with ⟨references, references_eq, general⟩
  simp only [Bool.and_eq_true, beq_iff_eq, decide_eq_true_eq] at text general
  rcases general with ⟨⟨general, shallow⟩, roomy⟩
  refine ⟨⟨{}, [docs, references]⟩, ofPolicy_eq_ok_iff.2
    ⟨rfl, .cons docs_eq (.cons references_eq .nil), ?_⟩⟩
  have fit := Pattern.Plan.allFit_of_isRoomy roomy
  simp [Glob.areBuildable, text, general, shallow, fit]

end Classifier

namespace Auditor

theorem ofPolicy_eq_ok_iff {policy : Policy} {auditor : Auditor} :
    ofPolicy policy limit = .ok auditor ↔
      auditor.rules.Reads limit policy ∧
        Classifier.ofPolicy policy.scan limit = .ok auditor.classifier ∧
        auditor.excerptLength = policy.scan.excerptLength := by
  simp only [ofPolicy, bind_eq_ok_iff, pure_eq_ok_iff, RuleSet.ofPolicy_eq_ok_iff]
  constructor
  · rintro ⟨rules, reads, classifier, read, rfl⟩
    exact ⟨reads, read, rfl⟩
  · rintro ⟨reads, read, length⟩
    exact ⟨auditor.rules, reads, auditor.classifier, read, by rw [← length]⟩

/-- The auditor of a policy, provided that it can be read. -/
def assembled (policy : Policy) : Auditor where
  rules := .assembled policy
  classifier := .assembled policy.scan
  excerptLength := policy.scan.excerptLength

theorem eq_assembled {policy : Policy} {auditor : Auditor}
    (read : ofPolicy policy limit = .ok auditor) : auditor = assembled policy := by
  rcases ofPolicy_eq_ok_iff.1 read with ⟨reads, classified, length⟩
  rw [assembled, ← reads.eq_assembled, ← Classifier.eq_assembled classified, ← length]

theorem labelled_adjust {policy : Policy} {auditor : Auditor}
    (read : ofPolicy policy limit = .ok auditor) (adjustments : Adjustments) :
    (auditor.adjust adjustments).rules.Labelled :=
  (ofPolicy_eq_ok_iff.1 read).1.labelled.adjust adjustments

/-- The built-in policy can be read. -/
theorem exists_ofPolicy_builtin : ∃ auditor, ofPolicy {} = .ok auditor := by
  rcases RuleSet.exists_ofPolicy_builtin with ⟨rules, reads⟩
  rcases Classifier.exists_ofPolicy_builtin with ⟨classifier, read⟩
  refine ⟨⟨rules, classifier, 60⟩, ofPolicy_eq_ok_iff.2 ⟨?_, read, rfl⟩⟩
  exact RuleSet.ofPolicy_eq_ok_iff.1 reads

end Auditor

end Precommit
