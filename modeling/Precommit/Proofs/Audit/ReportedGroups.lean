import Precommit.Proofs.Audit.Provenance
import Precommit.Proofs.Report.Groups
import Precommit.Report.Text

/-!
# What is reported under a heading

Both reports for people write the groups of the findings one after the other, each in its
own layout: something that opens the group and shows its heading, an entry for every member,
and something that closes the group. So they show the same headings, and under each the same
findings in the same order.

A heading is made of the code and the name of a check. An audit finds nothing but under the
seven labels of its checks, which have different codes, so there the code alone decides which
findings stand together.
-/

namespace Precommit

namespace Report

/-- What a report writes for the groups of the findings. -/
structure Layout where
  /-- What opens the group of a heading. -/
  opening : String → String
  entry : Finding → String
  closing : String

def Layout.write (layout : Layout) (groups : List Group) : String :=
  String.join (groups.map fun (heading, members) =>
    layout.opening heading ++ String.join (members.map layout.entry) ++ layout.closing)

/-- The groups of the text report. -/
def textLayout : Layout where
  opening heading := "  " ++ heading ++ "\n"
  entry finding :=
    "    " ++ finding.file ++ ":" ++ toString finding.line ++ " — " ++ finding.detail ++ "\n"
  closing := "\n"

/-- The groups of the markdown report. -/
def markdownLayout : Layout where
  opening heading := "\n## " ++ heading ++ "\n\n"
  entry finding :=
    "- `" ++ finding.file ++ ":" ++ toString finding.line ++ "`: " ++ finding.detail ++ "\n"
  closing := ""

/-- Lines are put together by ending all but the last with a line feed. -/
theorem intercalate_concat (lines : List String) (last : String) :
    "\n".intercalate (lines ++ [last]) = String.join (lines.map (· ++ "\n")) ++ last := by
  induction lines with
  | nil => simp
  | cons line lines ih =>
      rw [List.cons_append, String.intercalate_cons_of_ne_nil (by simp), ih, List.map_cons,
        String.join_cons]
      simp only [String.append_assoc]

/-- The lines of the groups, each with a line feed behind it, are the groups in their layout. -/
theorem join_textGroups (groups : List Group) :
    String.join ((groups.flatMap textGroup).map (· ++ "\n")) = textLayout.write groups := by
  have each (group : Group) : String.join ((textGroup group).map (· ++ "\n")) =
      textLayout.opening group.1 ++ String.join (group.2.map textLayout.entry) ++
        textLayout.closing := by
    simp [textGroup, textLayout, textEntry, Function.comp_def, String.append_assoc]
  induction groups with
  | nil => rfl
  | cons group groups ih =>
      rw [List.flatMap_cons, List.map_append, String.join_append, ih, each]
      exact String.join_cons.symm

theorem join_markdownGroups (groups : List Group) :
    String.join (groups.map markdownGroup) = markdownLayout.write groups := by
  rw [Layout.write]
  congr 1
  refine List.map_congr_left fun group _ => ?_
  simp only [markdownGroup, markdownLayout, String.append_empty]
  rfl

/-- Both reports write the groups out. A report without findings shows none. -/
structure ShowsGroups (result : AuditResult) (groups : List Group) : Prop where
  text : result.findings ≠ [] →
    Report.text result =
      "PRE-COMMIT AUDIT: FAIL\n  Scanned: " ++ toString result.filesScanned ++
        " files\n  Violations: " ++ toString result.findings.length ++ "\n\n" ++
        textLayout.write groups ++ "  Status: COMMIT BLOCKED"
  markdown :
    Report.markdown result =
      "# Pre-commit audit: " ++ verdict result ++ "\n\n" ++
        "Scanned **" ++ toString result.filesScanned ++ "** file(s), **" ++
        toString result.findings.length ++ "** violation(s)\n" ++ markdownLayout.write groups

theorem showsGroups_groups (result : AuditResult) :
    ShowsGroups result (groups result.findings) := by
  constructor
  · intro failing
    have failed : result.passed = false := by
      rw [AuditResult.passed, List.isEmpty_eq_false_iff]
      exact failing
    have status : "  Status: " ++ commitStatus result = "  Status: COMMIT BLOCKED" := by
      rw [commitStatus, failed]
      rfl
    have body : String.join
        (("" :: (groups result.findings).flatMap textGroup).map (· ++ "\n")) =
          "\n" ++ textLayout.write (groups result.findings) := by
      rw [List.map_cons, String.join_cons, join_textGroups, String.empty_append]
    rw [text, textLines, failed, intercalate_concat, status, List.map_append, String.join_append,
      if_neg Bool.false_ne_true, body]
    simp [← String.toList_inj, verdict, failed]
  · unfold markdown
    rw [join_markdownGroups]

end Report

namespace Label

/-- The labels of the checks and of the commit message. -/
def all : List Label :=
  Check.all.flatMap Check.labels ++ [.commitMessage]

/-- The codes tell the labels apart. -/
theorem eq_of_id_eq : ∀ label ∈ all, ∀ other ∈ all, label.id = other.id → label = other := by
  decide

end Label

theorem Finding.id_eq_of_heading_eq {finding other : Finding}
    (known : finding.label ∈ Label.all) (known' : other.label ∈ Label.all)
    (same : finding.heading = other.heading) : finding.label.id = other.label.id := by
  have apart : ∀ label ∈ Label.all, ∀ other ∈ Label.all,
      "[" ++ label.id ++ "] " ++ label.name = "[" ++ other.id ++ "] " ++ other.name →
        label.id = other.id := by
    decide
  exact apart _ known _ known' same

theorem Finding.heading_eq_iff {finding other : Finding}
    (known : finding.label ∈ Label.all) (known' : other.label ∈ Label.all) :
    finding.heading = other.heading ↔ finding.label.id = other.label.id := by
  constructor
  · exact Finding.id_eq_of_heading_eq known known'
  · intro same
    rw [heading, heading, Label.eq_of_id_eq _ known _ known' same]

namespace Auditor

variable {auditor : Auditor} {read? : String → Option Bytes} {paths : List String}
  {message : Option String}

/-- An audit finds nothing but under its labels, also if the policy adds rules of its own. -/
theorem label_mem_all (labelled : auditor.rules.Labelled) {finding : Finding}
    (member : finding ∈ (auditor.audit read? paths message).findings) :
    finding.label ∈ Label.all := by
  rw [findings_eq_append] at member
  rw [Label.all, List.mem_append]
  rcases List.mem_append.1 member with member | member
  · rcases List.mem_flatMap.1 member with ⟨path, _, member⟩
    rcases (ascending_contribution labelled 0 path).exists_tag member with
      ⟨origin, _, _, _, _, _, check, checks, _, before, line, after, _, _, breach⟩
    exact .inl (List.mem_flatMap.2
      ⟨check, List.mem_of_getElem? checks, breach.label_mem_labels⟩)
  · rcases isMarked_of_mem_messageFindings member with ⟨label, _, _⟩
    rw [label]
    exact .inr (List.mem_singleton_self _)

/--
The groups of the findings are their one stable partition by heading: together they are the
findings again. Both reports show them, so under the same headings they list the same findings
in the same order. Two findings of an audit stand in one group exactly if their checks have
the same code, whatever the policy and the match modes are.
-/
theorem groups_partition :
    (∀ findings groups,
      Report.IsStablePartition findings groups ↔ groups = Report.groups findings) ∧
    (∀ findings, ((Report.groups findings).flatMap Prod.snd).Perm findings) ∧
    (∀ result : AuditResult, Report.ShowsGroups result (Report.groups result.findings)) ∧
    ∀ policy limit built, ofPolicy policy limit = .ok built →
      ∀ adjustments read? paths message,
        let findings := ((built.adjust adjustments).audit read? paths message).findings
        ∀ first ∈ findings, ∀ second ∈ findings,
          (∃ group ∈ Report.groups findings, first ∈ group.2 ∧ second ∈ group.2) ↔
            first.label.id = second.label.id := by
  refine ⟨fun _ _ => Report.isStablePartition_iff, Report.perm_groups,
    Report.showsGroups_groups, ?_⟩
  intro policy limit built read adjustments read? paths message findings first listed second
    listed'
  have labelled := labelled_adjust read adjustments
  rw [(Report.isStablePartition_groups findings).share_iff,
    ← Finding.heading_eq_iff (label_mem_all labelled listed) (label_mem_all labelled listed')]
  exact ⟨fun together => together.2.2, fun same => ⟨listed, listed', same⟩⟩

/-- Findings of two checks by turns make two groups, the first one opened first. -/
theorem groups_partition_by_turns :
    ∃ auditor, ofPolicy {} = .ok auditor ∧
      let content := Utf8.encode "@Published a\n.sink(b)\n@Published c".toList
      let advice := "Use @Observable instead of @Published"
      let published : Finding := ⟨.deprecatedApi, "A.swift", 1, advice⟩
      let operator : Finding := ⟨.combineUsage, "A.swift", 2, "Combine operator prohibited"⟩
      let again : Finding := ⟨.deprecatedApi, "A.swift", 3, advice⟩
      let findings :=
        ((auditor.adjust {}).audit (fun _ => some content) ["A.swift"] none).findings
      findings = [published, operator, again] ∧
        Report.IsStablePartition findings
          [("[DP-001] Deprecated API", [published, again]),
            ("[CB-001] Combine Usage", [operator])] ∧
        ∀ first ∈ findings, ∀ second ∈ findings,
          (∃ group ∈ Report.groups findings, first ∈ group.2 ∧ second ∈ group.2) ↔
            first.label.id = second.label.id := by
  rcases exists_ofPolicy_builtin with ⟨auditor, read⟩
  obtain rfl := eq_assembled read
  refine ⟨assembled {}, read, ?_⟩
  intro content advice published operator again findings
  have found : findings = [published, operator, again] := by decide +kernel
  refine ⟨found, ?_, groups_partition.2.2.2 {} _ _ read {} _ _ _⟩
  rw [found]
  exact (groups_partition.1 _ _).2 (by decide)

end Auditor

end Precommit
