import Precommit.Proofs.Audit.Assembly
import Precommit.Proofs.Check.LineByLine

/-!
# Texts one after the other

The lines of two texts with a line feed in between are those of the first and then those of the
second. So a check that judges line by line finds in both together what it finds in each, with
the lines of the second numbered on. Debug blocks that the first text leaves open can only
spare lines of the second (`findings_joined`).
-/

namespace Precommit

theorem Text.lines_joined (first second : List Char) :
    lines (first ++ '\n' :: second) = lines first ++ lines second := by
  unfold lines
  induction first with
  | nil => rfl
  | cons character rest ih =>
      rw [List.cons_append, split, split, ih]
      split
      · rfl
      · cases parts : split '\n' rest with
        | nil =>
            rw [split_eq_splitOn] at parts
            exact absurd parts (List.splitOn_ne_nil _ _)
        | cons piece pieces => rfl

namespace Check

variable {auditor : Auditor} {path : String} {check : Check}

/-! ### Two lists of lines -/

theorem findings_append_of_depth {before : List Line}
    (unaffected : check ≠ .debugArtifact ∨ ¬Line.DebugOpen before) (after : List Line) :
    check.findings auditor path (before ++ after) =
      check.findings auditor path before ++
        (check.findings auditor path after).map (Finding.moved before.length) := by
  by_cases applies : check.appliesTo auditor.classifier path = true
  · have reset : check.findingsFrom auditor path (1 + before.length)
        (before.foldl Line.debugDepth 0) after =
          check.findingsFrom auditor path (1 + before.length) 0 after := by
      rcases unaffected with linewise | closed
      · exact findingsFrom_depth linewise _ _ _ _
      · have notPositive := mt (Line.depthAfter_pos_iff before).1 closed
        rw [Line.depthAfter] at notPositive
        rw [Nat.eq_zero_of_not_pos notPositive]
    simp only [findings_eq_findingsFrom applies]
    rw [findingsFrom_append, reset, findingsFrom_add]
  · simp [findings, applies]

theorem exists_sublist_findings_append (before after : List Line) :
    ∃ kept : List Finding,
      kept.Sublist ((check.findings auditor path after).map (Finding.moved before.length)) ∧
        check.findings auditor path (before ++ after) =
          check.findings auditor path before ++ kept := by
  by_cases applies : check.appliesTo auditor.classifier path = true
  · simp only [findings_eq_findingsFrom applies]
    refine ⟨_, ?_, findingsFrom_append 1 0 before after⟩
    rw [← findingsFrom_add]
    apply sublist_findingsFrom
    exact Nat.zero_le _
  · exact ⟨[], List.nil_sublist _, by simp [findings, applies]⟩

/--
In two texts with a line feed in between, a check finds what it finds in the first, followed by
what it finds in the second on as many lines further on as the first has. Only for debug output
the first text must leave no block open; in any case a part of this is found, in its order, in
which nothing of the first text is missing. This is so for all rules and ways to classify files.
-/
theorem findings_joined (auditor : Auditor) (path : String) (first second : List Char) :
    let onFirst (check : Check) := check.findings auditor path (Text.lines first)
    let onSecond (check : Check) := (check.findings auditor path (Text.lines second)).map
      (Finding.moved (Text.lines first).length)
    let onBoth (check : Check) := check.findings auditor path
      (Text.lines (first ++ '\n' :: second))
    (∀ check ∈ [protocolZero, forceUnwrap, bannedApi, secretLeakage],
      onBoth check = onFirst check ++ onSecond check) ∧
    (¬Line.DebugOpen (Text.lines first) →
      onBoth debugArtifact = onFirst debugArtifact ++ onSecond debugArtifact) ∧
    ∃ kept : List Finding, kept.Sublist (onSecond debugArtifact) ∧
      onBoth debugArtifact = onFirst debugArtifact ++ kept := by
  intro onFirst onSecond onBoth
  simp only [onFirst, onSecond, onBoth, Text.lines_joined]
  refine ⟨?_, ?_, ?_⟩
  · intro check listed
    have linewise : check ≠ .debugArtifact := by
      intro same
      rw [same] at listed
      exact absurd listed (by decide)
    exact findings_append_of_depth (.inl linewise) _
  · intro closed
    exact findings_append_of_depth (.inr closed) _
  · exact exists_sublist_findings_append _ _

/-- A surplus closing line in the first text leaves nothing open. -/
theorem findings_joined_surplus :
    ∃ auditor, Auditor.ofPolicy {} = .ok auditor ∧
      let first := "#if DEBUG\nprint(a)\n#endif\n#endif".toList
      let second := "let b = c!\nprint(b)".toList
      forceUnwrap.findings auditor "A.swift" (Text.lines (first ++ '\n' :: second)) =
          forceUnwrap.findings auditor "A.swift" (Text.lines first) ++
            (forceUnwrap.findings auditor "A.swift" (Text.lines second)).map (Finding.moved 4) ∧
        debugArtifact.findings auditor "A.swift" (Text.lines (first ++ '\n' :: second)) =
          debugArtifact.findings auditor "A.swift" (Text.lines first) ++
            (debugArtifact.findings auditor "A.swift" (Text.lines second)).map
              (Finding.moved 4) := by
  rcases Auditor.exists_ofPolicy_builtin with ⟨auditor, read⟩
  refine ⟨auditor, read, ?_⟩
  intro first second
  have length : (Text.lines first).length = 4 := by decide +kernel
  have closed : ¬Line.DebugOpen (Text.lines first) := by
    rw [← Line.depthAfter_pos_iff]
    decide +kernel
  have joined := findings_joined auditor "A.swift" first second
  simp only [length] at joined
  exact ⟨joined.1 forceUnwrap (by decide), joined.2.1 closed⟩

end Check

end Precommit
