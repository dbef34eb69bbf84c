import Mathlib.Data.List.TakeWhile
import Precommit.Proofs.Audit.Growth
import Precommit.Proofs.Audit.InvalidBytes
import Precommit.Proofs.Subject
import Precommit.Proofs.Text.LineBreaks

/-!
# Match modes

A table that reports every match of a line reports the first one as well, and before all
others. So its mode decides how much is listed for a line and never whether anything is: an
audit passes in one mode exactly if it passes in the other (`audit_everyMatch`). The subject of
a commit message is reported for the first match in any mode.
-/

namespace Precommit

/-- A choice among the rule tables. -/
structure TableChoice where
  forbiddenPhrases : Bool
  debugCalls : Bool
  bannedApis : Bool
  secrets : Bool
deriving DecidableEq, Repr

/-- Every match is reported if the table is chosen; otherwise the table stays as it is. -/
def TableAdjustment.everyMatch (chosen : Bool) : TableAdjustment where
  mode := if chosen then some .every else none

/-- Every match is reported in the chosen tables. -/
def Adjustments.everyMatch (choice : TableChoice) : Adjustments where
  forbiddenPhrases := .everyMatch choice.forbiddenPhrases
  debugCalls := .everyMatch choice.debugCalls
  bannedApis := .everyMatch choice.bannedApis
  secrets := .everyMatch choice.secrets

namespace RuleTable

variable {table : RuleTable} {line : Line} {chosen : Bool}

theorem rules_everyMatch : (table.adjust (.everyMatch chosen)).rules = table.rules :=
  List.map_id' table.rules

theorem firstMatch?_everyMatch :
    (table.adjust (.everyMatch chosen)).firstMatch? line = table.firstMatch? line := by
  rw [firstMatch?, rules_everyMatch, firstMatch?]

/-- In any mode, the rule that is reported first is the first that matches. -/
theorem head?_firing : (table.firing line).head? = table.firstMatch? line := by
  unfold firing
  split
  · exact Option.head?_toList
  · exact List.head?_filter

theorem firing_eq_nil_iff : table.firing line = [] ↔ table.firstMatch? line = none := by
  rw [← head?_firing, List.head?_eq_none_iff]

theorem firing_everyMatch_eq_nil_iff :
    (table.adjust (.everyMatch chosen)).firing line = [] ↔ table.firing line = [] := by
  rw [firing_eq_nil_iff, firstMatch?_everyMatch, firing_eq_nil_iff]

theorem sublist_firing_everyMatch :
    (table.firing line).Sublist ((table.adjust (.everyMatch chosen)).firing line) := by
  -- The first match heads what is reported in any mode, so it is never lost.
  have first (wide : RuleTable) : (wide.firstMatch? line).toList.Sublist (wide.firing line) := by
    rw [← head?_firing]
    cases wide.firing line with
    | nil => exact .slnil
    | cons rule rest => exact List.singleton_sublist.2 List.mem_cons_self
  cases mode : table.mode with
  | first =>
      rw [firing_eq_toList mode, ← @firstMatch?_everyMatch table line chosen]
      exact first _
  | every =>
      have same : table.adjust (.everyMatch chosen) = table := by
        cases chosen <;> cases table <;> simp_all [adjust, TableAdjustment.everyMatch]
      rw [same]

end RuleTable

variable {auditor : Auditor} {choice : TableChoice} {path : String}

namespace Check

variable {check : Check} {insideDebug : Bool} {line : Line} {number : Nat} {lines : List Line}

theorem mem_all (check : Check) : check ∈ all := by
  cases check <;> decide

theorem considers_everyMatch :
    check.considers (auditor.adjust (.everyMatch choice)).rules insideDebug line =
      check.considers auditor.rules insideDebug line := by
  cases check <;> rfl

theorem sublist_reports_everyMatch :
    (check.reports auditor line).Sublist
      (check.reports (auditor.adjust (.everyMatch choice)) line) := by
  cases check with
  | forceUnwrap => exact .refl _
  | _ => exact RuleTable.sublist_firing_everyMatch.map _

theorem reports_everyMatch_eq_nil_iff :
    check.reports (auditor.adjust (.everyMatch choice)) line = [] ↔
      check.reports auditor line = [] := by
  cases check with
  | forceUnwrap => exact Iff.rfl
  | _ =>
      simp only [reports, List.map_eq_nil_iff]
      exact RuleTable.firing_everyMatch_eq_nil_iff

theorem sublist_lineFindings_everyMatch :
    (check.lineFindings auditor path number insideDebug line).Sublist
      (check.lineFindings (auditor.adjust (.everyMatch choice)) path number insideDebug line) := by
  unfold lineFindings
  rw [considers_everyMatch]
  split
  · exact sublist_reports_everyMatch.map _
  · exact .slnil

theorem lineFindings_everyMatch_eq_nil_iff :
    check.lineFindings (auditor.adjust (.everyMatch choice)) path number insideDebug line = [] ↔
      check.lineFindings auditor path number insideDebug line = [] := by
  unfold lineFindings
  rw [considers_everyMatch]
  split
  · rw [List.map_eq_nil_iff, List.map_eq_nil_iff, reports_everyMatch_eq_nil_iff]
  · exact Iff.rfl

theorem sublist_findings_everyMatch :
    (check.findings auditor path lines).Sublist
      (check.findings (auditor.adjust (.everyMatch choice)) path lines) := by
  have grown : Inserts (fun _ => True) (check.findings auditor path lines)
      (check.findings (auditor.adjust (.everyMatch choice)) path lines) := by
    apply inserts_findings (by rfl)
    intro before line after _ _
    exact .of_sublist sublist_lineFindings_everyMatch
  exact grown.sublist

/-- The lines on which a check finds something. -/
theorem exists_finding_line_iff :
    (∃ finding ∈ check.findings auditor path lines, finding.line = number) ↔
      check.appliesTo auditor.classifier path = true ∧ ∃ before line after,
        lines = before ++ line :: after ∧ number = before.length + 1 ∧
          check.lineFindings auditor path number (decide (0 < Line.depthAfter before)) line ≠
            [] := by
  constructor
  · rintro ⟨finding, member, rfl⟩
    rcases mem_findings_iff.1 member with ⟨applies, before, line, after, split, found⟩
    have place := (place_of_mem_lineFindings found).2
    refine ⟨applies, before, line, after, split, place, ?_⟩
    rw [place]
    exact List.ne_nil_of_mem found
  · rintro ⟨applies, before, line, after, split, rfl, found⟩
    rcases List.exists_mem_of_ne_nil _ found with ⟨finding, member⟩
    exact ⟨finding, mem_findings_iff.2 ⟨applies, before, line, after, split, member⟩,
      (place_of_mem_lineFindings member).2⟩

theorem exists_finding_line_everyMatch_iff :
    (∃ finding ∈ check.findings (auditor.adjust (.everyMatch choice)) path lines,
        finding.line = number) ↔
      ∃ finding ∈ check.findings auditor path lines, finding.line = number := by
  simp only [exists_finding_line_iff, ne_eq, lineFindings_everyMatch_eq_nil_iff]
  rfl

end Check

namespace CommitMessage

theorem findings_of_subject {text : String} {line : Line} (isSubject : subject text = line)
    (nonempty : line ≠ []) (rules : RuleSet) :
    findings rules text =
      lengthFindings rules line ++ formatFindings rules line ++ periodFindings line ++
        (rules.forbiddenPhrases.firstMatch? line).toList.map fun rule =>
          finding ("Contains forbidden attribution phrase: " ++ rule.source) := by
  subst isSubject
  have notBlank : Text.trim text.toList ≠ [] := by
    intro blank
    apply nonempty
    rw [subject, blank]
    rfl
  rw [findings_of_not_blank notBlank, phraseFindings_eq]

theorem subject_of_line {line : Line} (noFeed : '\n' ∉ line) (trimmed : Text.trim line = line) :
    subject (String.ofList line) = line := by
  rw [subject, String.toList_ofList, trimmed, List.takeWhile_eq_self_iff]
  intro character member
  rw [bne_iff_ne]
  rintro rfl
  exact noFeed member

end CommitMessage

namespace Auditor

variable {read? : String → Option Bytes} {paths : List String} {message : Option String}

/-- What a check adds to the contribution of a listed path. -/
def checkContribution (auditor : Auditor) (read? : String → Option Bytes) (check : Check)
    (path : String) : List Finding :=
  if auditor.classifier.isScannable path then
    match read? path with
    | some content =>
        check.findings auditor path
          (Text.lines (Text.universalBreaks (Utf8.decodeLossy content)))
    | none => []
  else []

theorem contribution_eq_flatMap :
    auditor.contribution read? path =
      Check.all.flatMap fun check => auditor.checkContribution read? check path := by
  unfold contribution checkContribution
  split
  · cases read? path <;> rfl
  · rfl

/-- The check has a finding on the numbered line of the file at a place of the list. -/
def Flags (auditor : Auditor) (read? : String → Option Bytes) (paths : List String)
    (check : Check) (candidate number : Nat) : Prop :=
  ∃ path, paths[candidate]? = some path ∧
    ∃ finding ∈ auditor.checkContribution read? check path, finding.line = number

/-- An audit finds nothing if no check flags a line and nothing is said of the message. -/
theorem findings_audit_eq_nil_iff :
    (auditor.audit read? paths message).findings = [] ↔
      (∀ check candidate number, ¬auditor.Flags read? paths check candidate number) ∧
        auditor.messageFindings message = [] := by
  rw [audit_eq, List.append_eq_nil_iff, List.flatMap_eq_nil_iff]
  refine and_congr_left' ?_
  constructor
  · rintro silent check candidate number ⟨path, listed, finding, member, _⟩
    have nothing := silent path (List.mem_of_getElem? listed)
    rw [contribution_eq_flatMap, List.flatMap_eq_nil_iff] at nothing
    rw [nothing check check.mem_all] at member
    cases member
  · intro silent path listed
    rw [contribution_eq_flatMap, List.flatMap_eq_nil_iff]
    intro check _
    rw [List.eq_nil_iff_forall_not_mem]
    intro finding member
    rcases List.getElem?_of_mem listed with ⟨candidate, found⟩
    exact silent check candidate finding.line ⟨path, found, finding, member, rfl⟩

theorem flags_everyMatch_iff {check : Check} {candidate number : Nat} :
    (auditor.adjust (.everyMatch choice)).Flags read? paths check candidate number ↔
      auditor.Flags read? paths check candidate number := by
  unfold Flags
  refine exists_congr fun path => and_congr_right fun _ => ?_
  have classifier : (auditor.adjust (.everyMatch choice)).classifier = auditor.classifier := rfl
  unfold checkContribution
  rw [classifier]
  split
  · split
    · exact Check.exists_finding_line_everyMatch_iff
    · exact Iff.rfl
  · exact Iff.rfl

theorem messageFindings_everyMatch :
    (auditor.adjust (.everyMatch choice)).messageFindings message =
      auditor.messageFindings message := by
  cases message with
  | none => rfl
  | some text =>
      have phrase (subject : Line) :
          (auditor.adjust (.everyMatch choice)).rules.forbiddenPhrases.firstMatch? subject =
            auditor.rules.forbiddenPhrases.firstMatch? subject :=
        RuleTable.firstMatch?_everyMatch
      rw [messageFindings, messageFindings]
      by_cases blank : Text.trim text.toList = []
      · rw [CommitMessage.findings_of_blank blank, CommitMessage.findings_of_blank blank]
      · rw [CommitMessage.findings_of_not_blank blank, CommitMessage.findings_of_not_blank blank,
          CommitMessage.phraseFindings_eq, CommitMessage.phraseFindings_eq, phrase]
        rfl

/-- Where every match is reported, an audit scans the same files and keeps all findings. -/
theorem inserts_audit_everyMatch :
    ((auditor.adjust (.everyMatch choice)).audit read? paths message).filesScanned =
        (auditor.audit read? paths message).filesScanned ∧
      Inserts (fun _ => True) (auditor.audit read? paths message).findings
        ((auditor.adjust (.everyMatch choice)).audit read? paths message).findings := by
  have scannable (path : String) :
      (auditor.adjust (.everyMatch choice)).classifier.isScannable path =
        auditor.classifier.isScannable path := rfl
  apply inserts_audit scannable
  · intro path _ content _ _
    apply inserts_fileFindings
    intro check
    exact .of_sublist Check.sublist_findings_everyMatch
  · rw [messageFindings_everyMatch]
    exact .refl _

theorem passed_audit_everyMatch :
    ((auditor.adjust (.everyMatch choice)).audit read? paths message).passed =
      (auditor.audit read? paths message).passed := by
  rw [Bool.eq_iff_iff, AuditResult.passed, AuditResult.passed, List.isEmpty_iff,
    List.isEmpty_iff, findings_audit_eq_nil_iff, findings_audit_eq_nil_iff,
    messageFindings_everyMatch]
  simp only [flags_everyMatch_iff]

/--
The rule that a subject is reported for is the one that is reported first for a file that is
this line alone.
-/
theorem head?_findings_of_line {line : Line} (noFeed : '\n' ∉ line)
    (judged : auditor.classifier.isGovernanceFile path = false) :
    (Check.protocolZero.findings auditor path (Text.lines line)).head? =
      (auditor.rules.forbiddenPhrases.firstMatch? line).map fun rule =>
        { label := rule.label, file := path, line := 1,
          detail := rule.message ++ ": " ++ rule.source } := by
  have alone : Check.protocolZero.findings auditor path [line] =
      (auditor.rules.forbiddenPhrases.firing line).map fun rule =>
        { label := rule.label, file := path, line := 1,
          detail := rule.message ++ ": " ++ rule.source } := by
    simp [Check.findings, Check.appliesTo, judged, Text.numbered, Line.insideDebug,
      Line.insideDebugFrom, Check.lineFindings, Check.considers, Check.reports]
  rw [Text.lines_of_not_mem noFeed, alone, List.head?_map, RuleTable.head?_firing]

/--
Of two auditors that differ in tables that report every match instead of the first, the second
one scans the same files and finds what the first one finds, in its order, and possibly more
on the same lines: each check flags the same lines of the same listed files, the findings in
the message are equal, and so are verdict and exit status. In either of them, the rule that a
message with a given subject is reported for is the one that a file that is this line alone is
reported for first.
-/
theorem audit_everyMatch (auditor : Auditor) (choice : TableChoice) :
    let wide := auditor.adjust (.everyMatch choice)
    (∀ (read? : String → Option Bytes) (paths : List String) (message : Option String),
      let old := auditor.audit read? paths message
      let new := wide.audit read? paths message
      new.filesScanned = old.filesScanned ∧ old.findings.Sublist new.findings ∧
        (∀ check candidate number, wide.Flags read? paths check candidate number ↔
          auditor.Flags read? paths check candidate number) ∧
        wide.messageFindings message = auditor.messageFindings message ∧
        new.passed = old.passed ∧ new.exitCode = old.exitCode) ∧
    ∀ line : Line, '\n' ∉ line → line ≠ [] →
      (Text.trim line = line → CommitMessage.subject (String.ofList line) = line) ∧
      ∃ named : Option Rule, ∀ either ∈ [auditor, wide],
        (∀ text, CommitMessage.subject text = line →
          CommitMessage.findings either.rules text =
            CommitMessage.lengthFindings either.rules line ++
              CommitMessage.formatFindings either.rules line ++
              CommitMessage.periodFindings line ++
              named.toList.map fun rule =>
                CommitMessage.finding
                  ("Contains forbidden attribution phrase: " ++ rule.source)) ∧
        ∀ path, either.classifier.isGovernanceFile path = false →
          (Check.protocolZero.findings either path (Text.lines line)).head? =
            named.map fun rule =>
              { label := rule.label, file := path, line := 1,
                detail := rule.message ++ ": " ++ rule.source } := by
  intro wide
  constructor
  · intro read? paths message old new
    have grown : new.filesScanned = old.filesScanned ∧
        Inserts (fun _ => True) old.findings new.findings := inserts_audit_everyMatch
    have passed : new.passed = old.passed := passed_audit_everyMatch
    refine ⟨grown.1, grown.2.sublist, fun _ _ _ => flags_everyMatch_iff,
      messageFindings_everyMatch, passed, ?_⟩
    rw [AuditResult.exitCode, AuditResult.exitCode, passed]
  · intro line noFeed nonempty
    refine ⟨CommitMessage.subject_of_line noFeed,
      auditor.rules.forbiddenPhrases.firstMatch? line, ?_⟩
    intro either member
    have first : either.rules.forbiddenPhrases.firstMatch? line =
        auditor.rules.forbiddenPhrases.firstMatch? line := by
      rcases List.mem_pair.1 member with rfl | rfl
      · rfl
      · exact RuleTable.firstMatch?_everyMatch
    rw [← first]
    exact ⟨fun text isSubject => CommitMessage.findings_of_subject isSubject nonempty either.rules,
      fun path judged => head?_findings_of_line noFeed judged⟩

/-- A line with two forbidden phrases is reported for both, and a subject for the first. -/
theorem audit_everyMatch_generated :
    ∃ auditor, ofPolicy {} = .ok auditor ∧
      let wide := auditor.adjust (.everyMatch ⟨true, false, false, true⟩)
      let line := "Generated with AI-generated".toList
      let read? : String → Option Bytes := fun _ => some (Utf8.encode line)
      let first : Finding :=
        ⟨.protocolZero, "docs/a.md", 1, r"Forbidden phrase matched: generated\s+with"⟩
      let second : Finding :=
        ⟨.protocolZero, "docs/a.md", 1, r"Forbidden phrase matched: ai[\s\-]generated"⟩
      (auditor.audit read? ["docs/a.md"] none).findings = [first] ∧
        (wide.audit read? ["docs/a.md"] none).findings = [first, second] ∧
        (auditor.audit read? ["docs/a.md"] none).findings.Sublist
          (wide.audit read? ["docs/a.md"] none).findings ∧
        ∃ named : Option Rule,
          CommitMessage.findings auditor.rules (String.ofList line) =
            CommitMessage.lengthFindings auditor.rules line ++
              CommitMessage.formatFindings auditor.rules line ++
              CommitMessage.periodFindings line ++
              named.toList.map (fun rule =>
                CommitMessage.finding
                  ("Contains forbidden attribution phrase: " ++ rule.source)) ∧
          (Check.protocolZero.findings wide "docs/a.md" (Text.lines line)).head? =
            named.map fun rule =>
              { label := rule.label, file := "docs/a.md", line := 1,
                detail := rule.message ++ ": " ++ rule.source } := by
  rcases exists_ofPolicy_builtin with ⟨auditor, read⟩
  obtain rfl := eq_assembled read
  refine ⟨assembled {}, read, ?_⟩
  intro wide line read? first second
  have narrow : ((assembled {}).audit read? ["docs/a.md"] none).findings = [first] := by
    decide +kernel
  have both : (wide.audit read? ["docs/a.md"] none).findings = [first, second] := by decide +kernel
  have judged : wide.classifier.isGovernanceFile "docs/a.md" = false := by decide +kernel
  rcases audit_everyMatch (assembled {}) ⟨true, false, false, true⟩ with ⟨audits, lines⟩
  rcases lines line (by decide) (by decide) with ⟨subject, named, agree⟩
  have isSubject := subject (by decide +kernel)
  refine ⟨narrow, both, (audits _ _ _).2.1, named, ?_, ?_⟩
  · exact (agree (assembled {}) List.mem_cons_self).1 _ isSubject
  · exact (agree wide (List.mem_cons_of_mem _ List.mem_cons_self)).2 "docs/a.md" judged

end Auditor

end Precommit
