import Mathlib.Data.List.Find
import Precommit.Proofs.Pattern.Resumption
import Precommit.Proofs.Tagging
import Precommit.Rule.Table

/-!
# Rules that are reported

What a table reports for a line, said by positions in the table: a rule is reported if
it matches and, where only the first match counts, no rule before it does.
-/

namespace Precommit

theorem Rule.isMatch_iff (rule : Rule) (line : Line) :
    rule.isMatch line = true ↔ rule.pattern.Matches line :=
  rule.pattern.isMatch_iff line

namespace RuleTable

/-- The table reports the rule at a position for the line. -/
structure ReportsAt (table : RuleTable) (line : Line) (position : Nat) (rule : Rule) : Prop where
  listed : table.rules[position]? = some rule
  applies : rule.pattern.Matches line
  precedes : table.mode = .first → ∀ before < position, ∀ earlier : Rule,
    table.rules[before]? = some earlier → ¬earlier.pattern.Matches line

variable {table : RuleTable} {line : Line}

theorem firstMatch?_eq_some_iff {rule : Rule} :
    table.firstMatch? line = some rule ↔
      ∃ position : Nat, table.rules[position]? = some rule ∧ rule.pattern.Matches line ∧
        ∀ before < position, ∀ earlier : Rule, table.rules[before]? = some earlier →
          ¬earlier.pattern.Matches line := by
  rw [firstMatch?, List.find?_eq_some_iff_getElem, Rule.isMatch_iff]
  constructor
  · rintro ⟨applies, position, bound, rfl, fails⟩
    refine ⟨position, List.getElem?_eq_getElem bound, applies, ?_⟩
    intro before lt earlier found
    obtain ⟨_, rfl⟩ := List.getElem?_eq_some_iff.1 found
    have fails := fails before lt
    rw [← Rule.isMatch_iff]
    simpa using fails
  · rintro ⟨position, found, applies, fails⟩
    obtain ⟨bound, rfl⟩ := List.getElem?_eq_some_iff.1 found
    refine ⟨applies, position, bound, rfl, ?_⟩
    intro before lt
    have fails := fails before lt _ (List.getElem?_eq_getElem (by omega))
    rw [← Rule.isMatch_iff] at fails
    simpa using fails

theorem firing_eq_toList (mode : table.mode = .first) (line : Line) :
    table.firing line = (table.firstMatch? line).toList := by
  rw [firing, mode]

/-- Where all rules of a table are reported alike, it does not matter which one applies. -/
theorem map_firing_of_alike {Report : Type} {report : Rule → Report} {reported : Report}
    (mode : table.mode = .first) (alike : ∀ rule ∈ table.rules, report rule = reported)
    (line : Line) :
    (table.firing line).map report =
      if table.rules.any (·.isMatch line) then [reported] else [] := by
  rw [firing_eq_toList mode, firstMatch?]
  cases found : table.rules.find? (·.isMatch line) with
  | none =>
      rw [List.find?_eq_none] at found
      rw [if_neg]
      · rfl
      · simpa using found
  | some rule =>
      have listed := List.mem_of_find?_eq_some found
      rw [if_pos (List.any_eq_true.2 ⟨rule, listed, List.find?_some found⟩), Option.toList_some,
        List.map_singleton, alike rule listed]

/-- A table reports the same for lines that the same of its rules match. -/
theorem firing_congr {line' : Line}
    (same : ∀ rule ∈ table.rules, rule.isMatch line = rule.isMatch line') :
    table.firing line = table.firing line' := by
  unfold firing firstMatch?
  rw [List.find?_congr same, List.filter_congr same]

theorem mem_firing_iff {rule : Rule} :
    rule ∈ table.firing line ↔ ∃ position, table.ReportsAt line position rule := by
  cases mode : table.mode with
  | first =>
      simp only [firing, mode, Option.mem_toList, firstMatch?_eq_some_iff]
      constructor
      · rintro ⟨position, found, applies, fails⟩
        exact ⟨position, found, applies, fun _ => fails⟩
      · rintro ⟨position, found, applies, fails⟩
        exact ⟨position, found, applies, fails mode⟩
  | every =>
      simp only [firing, mode]
      rw [List.mem_filter, List.mem_iff_getElem?, Rule.isMatch_iff]
      constructor
      · rintro ⟨⟨position, found⟩, applies⟩
        exact ⟨position, found, applies, by simp [mode]⟩
      · rintro ⟨position, found, applies, _⟩
        exact ⟨⟨position, found⟩, applies⟩

/-- The reported rules come in the order of the table. -/
theorem ascending_firing : Ascending (· < ·) (table.ReportsAt line) (table.firing line) := by
  cases mode : table.mode with
  | first =>
      simp only [firing, mode]
      cases found : table.firstMatch? line with
      | none => exact .nil
      | some rule =>
          have reported : rule ∈ table.firing line := by simp [firing, mode, found]
          rcases mem_firing_iff.1 reported with ⟨position, reports⟩
          exact .singleton reports
  | every =>
      simp only [firing, mode]
      apply (Ascending.filter table.rules (·.isMatch line)).imp
      rintro position rule ⟨found, applies⟩
      exact ⟨found, rule.isMatch_iff line |>.1 applies, by simp [mode]⟩

/-- A table that reports only the first match reports at one position at most. -/
theorem ReportsAt.position_eq {position position' : Nat} {rule rule' : Rule}
    (reports : table.ReportsAt line position rule)
    (reports' : table.ReportsAt line position' rule') (mode : table.mode = .first) :
    position = position' := by
  rcases Nat.lt_trichotomy position position' with lt | rfl | gt
  · exact absurd reports.applies (reports'.precedes mode position lt rule reports.listed)
  · rfl
  · exact absurd reports'.applies (reports.precedes mode position' gt rule' reports'.listed)

end RuleTable

end Precommit
