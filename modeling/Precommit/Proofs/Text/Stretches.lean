import Mathlib.Data.List.Infix
import Precommit.Text.Line

/-!
# Stretches of a text

A stretch of a text that is divided by a separator stands on one side of it or goes across. A
stretch without the separator cannot go across, so it is looked for in the pieces.
-/

namespace Precommit

namespace Text

variable {stretch left right : List Char} {separator : Char}

/-- Where a stretch stands that is found in a text with a separator. -/
theorem infix_separated_iff :
    stretch <:+: left ++ separator :: right ↔
      stretch <:+: left ∨ stretch <:+: right ∨
        ∃ first second, stretch = first ++ separator :: second ∧ first <:+ left ∧
          second <+: right := by
  constructor
  · rw [List.infix_append_iff, List.infix_cons_iff, List.prefix_cons_iff]
    rintro (onLeft | ((rfl | ⟨second, rfl, begins⟩) | onRight) | ⟨first, rest, rfl, ends, begins⟩)
    · exact .inl onLeft
    · exact .inl List.nil_infix
    · exact .inr (.inr ⟨[], second, rfl, List.nil_suffix, begins⟩)
    · exact .inr (.inl onRight)
    · rcases List.prefix_cons_iff.1 begins with rfl | ⟨second, rfl, goesOn⟩
      · rw [List.append_nil]
        exact .inl ends.isInfix
      · exact .inr (.inr ⟨first, second, rfl, ends, goesOn⟩)
  · rintro (onLeft | onRight | ⟨first, second, rfl, ⟨before, rfl⟩, after, rfl⟩)
    · exact List.infix_append_of_infix_left onLeft
    · exact List.infix_append_of_infix_right (List.infix_cons onRight)
    · exact ⟨before, after, by simp⟩

theorem infix_separated_iff_of_notMem (absent : separator ∉ stretch) :
    stretch <:+: left ++ separator :: right ↔ stretch <:+: left ∨ stretch <:+: right := by
  rw [infix_separated_iff]
  constructor
  · rintro (onLeft | onRight | ⟨first, second, rfl, _⟩)
    · exact .inl onLeft
    · exact .inr onRight
    · exact absurd (by simp) absent
  · rintro (onLeft | onRight)
    · exact .inl onLeft
    · exact .inr (.inl onRight)

/-- A stretch with another beginning is not found at the beginning. -/
theorem infix_cons_iff_of_begins {other : Char} (begins : ∀ first ∈ stretch.head?, first ≠ other) :
    stretch <:+: other :: right ↔ stretch <:+: right := by
  refine ⟨?_, List.infix_cons⟩
  rw [List.infix_cons_iff, List.prefix_cons_iff]
  rintro ((rfl | ⟨rest, rfl, _⟩) | onRight)
  · exact List.nil_infix
  · exact absurd rfl (begins other rfl)
  · exact onRight

/-- A stretch ends where its last character stands. -/
theorem infix_append_iff_of_ends {last : Char} (absent : last ∉ right) :
    stretch ++ [last] <:+: left ++ right ↔ stretch ++ [last] <:+: left := by
  refine ⟨?_, List.infix_append_of_infix_left⟩
  rw [List.infix_append_iff]
  rintro (onLeft | onRight | ⟨first, second, split, ends, begins⟩)
  · exact onLeft
  · exact absurd (onRight.subset (by simp)) absent
  · rcases List.eq_nil_or_concat' second with rfl | ⟨rest, last', rfl⟩
    · rw [List.append_nil] at split
      rw [split]
      exact ends.isInfix
    · rw [← List.append_assoc] at split
      obtain ⟨_, ⟨⟩⟩ := List.append_inj' split rfl
      exact absurd (begins.subset (by simp)) absent

end Text

end Precommit
