import Precommit.Proofs.Audit.Independence
import Precommit.Proofs.Audit.TextFindings
import Precommit.Proofs.Check.LineByLine
import Precommit.Proofs.Text.ScannedLines

/-!
# Invalid bytes stay on their line

Whatever bytes a line of a file is made of, the other lines are scanned as they are. All
checks but the one that minds debug blocks judge each line for itself, so they find the same
in the other lines, under the same numbers (`audit_replacing_line`).
-/

namespace Precommit

variable {auditor : Auditor} {path : String}

namespace Check

variable {check : Check}

/-- Another line changes what such a check finds in that line only. -/
theorem filter_findings_set (linewise : check ≠ .debugArtifact) {keeps : Finding → Bool}
    {index : Nat}
    (drops : ∀ finding : Finding, finding.file = path → finding.line = index + 1 →
      keeps finding = false)
    (lines : List Line) (line : Line) :
    (check.findings auditor path (lines.set index line)).filter keeps =
      (check.findings auditor path lines).filter keeps := by
  unfold findings
  split
  case isFalse => rfl
  case isTrue =>
    rw [List.filter_flatMap, List.filter_flatMap, List.flatMap_def, List.flatMap_def]
    congr 1
    apply List.ext_getElem?
    intro place
    simp only [List.getElem?_map, Line.getElem?_zip_insideDebug, Option.map_map,
      Function.comp_def, lineFindings_insideDebug linewise _ (decide _)]
    by_cases same : place = index
    · subst same
      have nothing : ∀ line, (check.lineFindings auditor path (place + 1) false line).filter keeps
          = [] := by
        intro line
        rw [List.filter_eq_nil_iff]
        intro finding member
        rcases place_of_mem_lineFindings member with ⟨file, number⟩
        rw [drops finding file number]
        decide
      simp only [nothing, List.getElem?_set_self']
      cases lines[place]? <;> rfl
    · rw [List.getElem?_set_ne (Ne.symm same)]

theorem label_of_mem_findings_debugArtifact (labelled : auditor.rules.Labelled)
    {lines : List Line} {finding : Finding}
    (member : finding ∈ debugArtifact.findings auditor path lines) :
    finding.label = .debugArtifact := by
  rcases exists_states_of_mem_findings labelled member with
    ⟨_, _, _, _, _, _, _, breach⟩
  exact List.mem_singleton.1 breach.label_mem_labels

end Check

namespace Auditor

/--
Whether a finding has nothing to do with a line of a file. What opens or closes a debug block
in that line matters for debug output in the rest of the file.
-/
def isElsewhere (path : String) (number : Nat) (finding : Finding) : Bool :=
  finding.file = path → finding.line ≠ number ∧ finding.label ≠ .debugArtifact

variable {before bytes bytes' after : Bytes}

theorem filter_fileFindings_eq (labelled : auditor.rules.Labelled)
    (isLine : Text.IsLineBetween before bytes after)
    (isLine' : Text.IsLineBetween before bytes' after) :
    (auditor.fileFindings path (before ++ (bytes' ++ after))).filter
        (isElsewhere path (Text.scannedLines before).length) =
      (auditor.fileFindings path (before ++ (bytes ++ after))).filter
        (isElsewhere path (Text.scannedLines before).length) := by
  have found (content : Bytes) : auditor.fileFindings path content =
      Check.all.flatMap fun check => check.findings auditor path (Text.scannedLines content) :=
    rfl
  rw [found, found, Text.scannedLines_set isLine isLine', List.filter_flatMap,
    List.filter_flatMap]
  congr 1
  funext check
  by_cases linewise : check = .debugArtifact
  · subst linewise
    have nothing (lines : List Line) : (Check.debugArtifact.findings auditor path lines).filter
        (isElsewhere path (Text.scannedLines before).length) = [] := by
      rw [List.filter_eq_nil_iff]
      intro finding member
      rcases Check.exists_states_of_mem_findings labelled member with ⟨_, file, _⟩
      have label := Check.label_of_mem_findings_debugArtifact labelled member
      simp [isElsewhere, file, label]
    rw [nothing, nothing]
  · apply Check.filter_findings_set linewise
    intro finding file line
    have positive := Text.length_scannedLines_pos before
    rw [Nat.sub_add_cancel positive] at line
    simp [isElsewhere, file, line]

theorem filter_audit_eq (labelled : auditor.rules.Labelled)
    (isLine : Text.IsLineBetween before bytes after)
    (isLine' : Text.IsLineBetween before bytes' after) (read? : String → Option Bytes)
    (path : String) (paths : List String) (message : Option String) :
    let result (content : Bytes) := auditor.audit
      (fun other => if other = path then some content else read? other) paths message
    (result (before ++ (bytes' ++ after))).filesScanned =
        (result (before ++ (bytes ++ after))).filesScanned ∧
      (result (before ++ (bytes' ++ after))).findings.filter
          (isElsewhere path (Text.scannedLines before).length) =
        (result (before ++ (bytes ++ after))).findings.filter
          (isElsewhere path (Text.scannedLines before).length) := by
  intro result
  simp only [result, audit_eq]
  constructor
  · congr 1
    funext other
    simp only [isScanned]
    split <;> rfl
  · rw [List.filter_append, List.filter_append, List.filter_flatMap, List.filter_flatMap]
    congr 2
    funext other
    simp only [contribution]
    split
    · by_cases same : other = path
      · subst same
        simp only [if_true]
        exact filter_fileFindings_eq labelled isLine isLine'
      · simp only [if_neg same]
    · rfl

/--
Line ends survive the bytes around them: a file can be split at them before it is decoded or
afterwards, and a text that was encoded is decoded again. So another line in the place of a
line, of whatever bytes, leaves the number of lines, all other lines and all findings
elsewhere as they are. It has to be a line: between a carriage return and a line feed there
is no empty one.
-/
theorem audit_replacing_line :
    (∀ content : Bytes,
      Text.split '\n' (Utf8.decodeLossy content) =
          (content.splitOn 0x0A).map Utf8.decodeLossy ∧
        Text.split '\r' (Utf8.decodeLossy content) =
          (content.splitOn 0x0D).map Utf8.decodeLossy) ∧
      (∀ text : List Char, Utf8.decodeLossy (Utf8.encode text) = text) ∧
      ∀ before bytes bytes' after : Bytes, Text.IsLineBetween before bytes after →
        Text.IsLineBetween before bytes' after →
          Text.scannedLines (before ++ (bytes' ++ after)) =
              (Text.scannedLines (before ++ (bytes ++ after))).set
                ((Text.scannedLines before).length - 1) (Utf8.decodeLossy bytes') ∧
            ∀ (limit : Option Nat) (policy : Policy) (auditor : Auditor),
              ofPolicy policy limit = .ok auditor →
              ∀ (adjustments : Adjustments) (read? : String → Option Bytes) (path : String)
                (paths : List String) (message : Option String),
                let result (content : Bytes) := (auditor.adjust adjustments).audit
                  (fun other => if other = path then some content else read? other) paths message
                let elsewhere := isElsewhere path (Text.scannedLines before).length
                (result (before ++ (bytes' ++ after))).filesScanned =
                    (result (before ++ (bytes ++ after))).filesScanned ∧
                  (result (before ++ (bytes' ++ after))).findings.filter elsewhere =
                    (result (before ++ (bytes ++ after))).findings.filter elsewhere := by
  refine ⟨fun content => ⟨?_, ?_⟩, Utf8.decodeLossy_encode, ?_⟩
  · exact Utf8.split_decodeLossy (show (0 : UInt8) < 0x0A by decide) (by decide) content
  · exact Utf8.split_decodeLossy (show (0 : UInt8) < 0x0D by decide) (by decide) content
  · intro before bytes bytes' after isLine isLine'
    refine ⟨Text.scannedLines_set isLine isLine', ?_⟩
    intro limit policy auditor read adjustments read? path paths message
    exact filter_audit_eq (labelled_adjust read adjustments) isLine isLine' read? path paths message

/-- A sequence that is cut off by the end of its line takes nothing from the next line. -/
theorem audit_replacing_line_truncated :
    let before := Utf8.encode "let a = b!\r".toList
    let after := Utf8.encode "\nlet c = d!".toList
    Text.IsLineBetween before [0x78] after ∧ Text.IsLineBetween before [0xF0, 0x9F, 0x98] after ∧
      ∃ auditor, ofPolicy {} = .ok auditor ∧
        let result (content : Bytes) := (auditor.adjust {}).audit
          (fun other => if other = "A.swift" then some content else none) ["A.swift"] none
        (result (before ++ ([0xF0, 0x9F, 0x98] ++ after))).findings.filter (isElsewhere "A.swift" 2) =
          (result (before ++ ([0x78] ++ after))).findings.filter (isElsewhere "A.swift" 2) := by
  intro before after
  have isLine : Text.IsLineBetween before [0x78] after :=
    ⟨by decide, by decide +kernel, by decide +kernel, by decide⟩
  have isLine' : Text.IsLineBetween before [0xF0, 0x9F, 0x98] after :=
    ⟨by decide, by decide +kernel, by decide +kernel, by decide⟩
  rcases exists_ofPolicy_builtin with ⟨auditor, read⟩
  have number : (Text.scannedLines before).length = 2 := by decide +kernel
  refine ⟨isLine, isLine', auditor, read, ?_⟩
  have replaced := ((audit_replacing_line.2.2 _ _ _ _ isLine isLine').2 _ _ _ read {}
    (fun _ => none) "A.swift" ["A.swift"] none).2
  rw [number] at replaced
  exact replaced

/--
A line between a carriage return and a line feed that is emptied is no line any more, and the
lines after it move up.
-/
theorem fileFindings_emptied_line :
    let before := Utf8.encode "a\r".toList
    let after := Utf8.encode "\nlet b = c!".toList
    let finding : Finding :=
      { label := .forceUnwrap, file := "A.swift", line := 3,
        detail := "Force unwrap operator detected" }
    Text.IsLineBetween before [0x78] after ∧
      ∃ auditor, ofPolicy {} = .ok auditor ∧
        finding ∈ auditor.fileFindings "A.swift" (before ++ ([0x78] ++ after)) ∧
        finding ∉ auditor.fileFindings "A.swift" (before ++ ([] ++ after)) := by
  intro before after finding
  rcases exists_ofPolicy_builtin with ⟨auditor, read⟩
  have labelled := (ofPolicy_eq_ok_iff.1 read).1.labelled
  obtain rfl := eq_assembled read
  refine ⟨⟨by decide, by decide +kernel, by decide +kernel, by decide⟩, assembled {}, read, ?_, ?_⟩
  · exact (mem_textFindings_iff labelled).2
      ⟨.forceUnwrap, 0, rfl, ["a".toList, "x".toList], "let b = c!".toList, [],
        by decide +kernel, rfl, .unwrap (by decide +kernel) (by decide +kernel)⟩
  · intro member
    rcases (mem_textFindings_iff labelled).1 member with
      ⟨_, _, _, earlier, line, later, split, number, _⟩
    have lines : (Text.scannedLines (before ++ ([] ++ after))).length = 2 := by decide +kernel
    have shorter : earlier.length + 1 ≤ 2 := by
      rw [← lines, Text.scannedLines, split, List.length_append, List.length_cons]
      omega
    rw [← number] at shorter
    exact absurd shorter (by decide)

end Auditor

end Precommit
