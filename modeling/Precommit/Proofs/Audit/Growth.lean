import Precommit.Proofs.Audit.Independence
import Precommit.Proofs.Audit.TextFindings
import Precommit.Proofs.Insertion

/-!
# Audits that find more

Two auditors that scan the same files are compared line by line: if on every line one of them
finds what the other does and possibly more, then so it does in every file and in the whole
audit, and nothing changes its place.
-/

namespace Precommit

variable {auditor auditor' : Auditor} {isNew : Finding → Prop}

theorem Check.inserts_findings {check : Check} {path : String} {lines : List Line}
    (applies : check.appliesTo auditor'.classifier path =
      check.appliesTo auditor.classifier path)
    (each : ∀ before line after, lines = before ++ line :: after →
      check.appliesTo auditor.classifier path = true →
      Inserts isNew
        (check.lineFindings auditor path (before.length + 1)
          (decide (0 < Line.depthAfter before)) line)
        (check.lineFindings auditor' path (before.length + 1)
          (decide (0 < Line.depthAfter before)) line)) :
    Inserts isNew (check.findings auditor path lines) (check.findings auditor' path lines) := by
  unfold findings
  rw [applies]
  split
  case isFalse => exact .nil
  case isTrue judged =>
    apply Inserts.flatMap
    intro part member
    rcases Line.exists_split_of_mem_zip member with ⟨before, line, after, split, rfl⟩
    exact each before line after split judged

namespace Auditor

variable {read? : String → Option Bytes} {paths : List String} {message : Option String}

theorem inserts_fileFindings {path : String} {content : Bytes}
    (each : ∀ check : Check, Inserts isNew
      (check.findings auditor path (Text.lines (Text.universalBreaks (Utf8.decodeLossy content))))
      (check.findings auditor' path
        (Text.lines (Text.universalBreaks (Utf8.decodeLossy content))))) :
    Inserts isNew (auditor.fileFindings path content) (auditor'.fileFindings path content) := by
  rw [fileFindings_eq_flatMap, fileFindings_eq_flatMap]
  apply Inserts.flatMap
  intro check _
  exact each check

theorem inserts_audit
    (scannable : ∀ path,
      auditor'.classifier.isScannable path = auditor.classifier.isScannable path)
    (files : ∀ path ∈ paths, ∀ content, auditor.classifier.isScannable path = true →
      read? path = some content →
      Inserts isNew (auditor.fileFindings path content) (auditor'.fileFindings path content))
    (commit : Inserts isNew (auditor.messageFindings message)
      (auditor'.messageFindings message)) :
    (auditor'.audit read? paths message).filesScanned =
        (auditor.audit read? paths message).filesScanned ∧
      Inserts isNew (auditor.audit read? paths message).findings
        (auditor'.audit read? paths message).findings := by
  simp only [audit_eq]
  constructor
  · congr 1
    funext path
    rw [isScanned, isScanned, scannable]
  · apply Inserts.append ?_ commit
    apply Inserts.flatMap
    intro path listed
    unfold contribution
    rw [scannable]
    split
    case isFalse => exact .nil
    case isTrue isScannable =>
      cases found : read? path with
      | none => exact .nil
      | some content => exact files path listed content isScannable found

end Auditor

end Precommit
