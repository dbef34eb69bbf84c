import Precommit.Proofs.Json.RoundTrip

/-!
# Reports for programs lose nothing

A program that reads the report of a result gets the result back: the number of files, and
every finding with all that is known about it, in their order. Reports of different results
are therefore different texts.
-/

namespace Precommit

namespace Report

/-- What the report says about a finding. -/
def findingValue (finding : Finding) : Json.Value :=
  .object
    [("check_id", .string finding.label.id), ("check_name", .string finding.label.name),
      ("detail", .string finding.detail), ("file", .string finding.file),
      ("line", .number finding.line)]

theorem value_findingDocument (finding : Finding) :
    (findingDocument finding).value = findingValue finding := by
  rw [findingDocument, Json.value]
  simp only [Json.memberValues, Json.value, findingValue]

theorem findingValue_injective : Function.Injective findingValue := by
  intro finding other same
  rcases finding with ⟨⟨id, name⟩, file, line, detail⟩
  rcases other with ⟨⟨id', name'⟩, file', line', detail'⟩
  simp only [findingValue, Json.Value.object.injEq, List.cons.injEq, Prod.mk.injEq,
    Json.Value.string.injEq, Json.Value.number.injEq, Nat.cast_inj, true_and, and_true] at same
  rcases same with ⟨rfl, rfl, rfl, rfl, rfl⟩
  rfl

/-- What the report says about a result. -/
def resultValue (result : AuditResult) : Json.Value :=
  .object
    [("files_scanned", .number result.filesScanned),
      ("passed", .boolean (decide (result.findings = []))),
      ("violations", .array (result.findings.map findingValue))]

theorem value_document (result : AuditResult) : (document result).value = resultValue result := by
  have passed : result.passed = decide (result.findings = []) := by
    rw [AuditResult.passed, Bool.eq_iff_iff, List.isEmpty_iff, decide_eq_true_iff]
  have findings : Json.itemValues (result.findings.map findingDocument) =
      result.findings.map findingValue := by
    rw [Json.itemValues_eq_map, List.map_map]
    exact List.map_congr_left fun finding _ => value_findingDocument finding
  rw [document, Json.value]
  simp only [Json.memberValues, Json.value, passed, findings, resultValue]

theorem resultValue_injective : Function.Injective resultValue := by
  intro result other same
  rcases result with ⟨filesScanned, findings⟩
  rcases other with ⟨filesScanned', findings'⟩
  simp only [resultValue, Json.Value.object.injEq, List.cons.injEq, Prod.mk.injEq,
    Json.Value.number.injEq, Json.Value.array.injEq, Nat.cast_inj, true_and, and_true] at same
  rcases same with ⟨rfl, -, listed⟩
  rw [findingValue_injective.list_map listed]

/--
The report of a result is a JSON text for an object with three members: the number of files,
whether there are no findings, and the findings in their order, each of them an object with
its five fields. No other result has this report.
-/
theorem parse?_json (result : AuditResult) :
    Json.parse? (json result) = some (resultValue result) ∧
      ∀ other, json other = json result ↔ other = result := by
  have read (result : AuditResult) : Json.parse? (json result) = some (resultValue result) := by
    rw [json, Json.parse?_print, value_document]
  refine ⟨read result, fun other => ⟨fun same => ?_, fun same => by rw [same]⟩⟩
  have values : some (resultValue other) = some (resultValue result) := by
    rw [← read other, ← read result, same]
  exact resultValue_injective (Option.some.inj values)

end Report

end Precommit
