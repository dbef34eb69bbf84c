import Mathlib.Data.List.TakeWhile
import Precommit.Text.Line

/-!
# Trimming

Blanks around a text do not matter once it is trimmed. A text that begins and ends with
visible characters is left as it is, and only such a text is.
-/

namespace Precommit

namespace Text

open Unicode

variable {leading line trailing : List Char}

theorem trimStart_append (blank : ∀ character ∈ leading, isBlank character = true)
    (line : List Char) : trimStart (leading ++ line) = trimStart line :=
  List.dropWhile_append_of_pos blank

theorem trimEnd_eq_reverse (line : List Char) :
    trimEnd line = (trimStart line.reverse).reverse :=
  rfl

theorem prefix_trimEnd (line : List Char) : trimEnd line <+: line := by
  rw [← List.reverse_suffix, trimEnd_eq_reverse, List.reverse_reverse]
  exact List.dropWhile_suffix isBlank

theorem trimEnd_append (blank : ∀ character ∈ trailing, isBlank character = true)
    (line : List Char) : trimEnd (line ++ trailing) = trimEnd line := by
  have blank' : ∀ character ∈ trailing.reverse, isBlank character = true :=
    fun character member => blank character (List.mem_reverse.1 member)
  rw [trimEnd_eq_reverse, List.reverse_append, trimStart_append blank', ← trimEnd_eq_reverse]

/-- Blanks around a line are trimmed with the rest of its blanks. -/
theorem trim_surrounded (blankLeading : ∀ character ∈ leading, isBlank character = true)
    (blankTrailing : ∀ character ∈ trailing, isBlank character = true) (line : List Char) :
    trim (leading ++ line ++ trailing) = trim line := by
  rw [trim, trim, List.append_assoc, trimStart_append blankLeading, trimStart,
    List.dropWhile_append]
  split
  case isTrue empty =>
    rw [List.isEmpty_iff] at empty
    rw [trimStart, empty, List.dropWhile_eq_nil_iff.2 blankTrailing]
  case isFalse => exact trimEnd_append blankTrailing _

theorem trimStart_eq_self_iff :
    trimStart line = line ↔ ∀ character, line.head? = some character →
      isBlank character = false := by
  cases line with
  | nil => simp [trimStart]
  | cons initial rest =>
      simp only [List.head?_cons, Option.some.injEq, forall_eq']
      rw [trimStart, List.dropWhile_cons]
      cases blank : isBlank initial with
      | true =>
          refine iff_of_false (fun same => ?_) Bool.noConfusion
          have shorter := (List.dropWhile_suffix isBlank (l := rest)).length_le
          have longer := congrArg List.length same
          simp only [if_true, List.length_cons] at longer
          omega
      | false => exact iff_of_true rfl rfl

theorem trimEnd_eq_self_iff :
    trimEnd line = line ↔ ∀ character, line.getLast? = some character →
      isBlank character = false := by
  rw [trimEnd_eq_reverse, List.reverse_eq_iff, trimStart_eq_self_iff, List.head?_reverse]

/-- A text is trimmed already exactly if it does not begin or end with a blank. -/
theorem trim_eq_self_iff :
    trim line = line ↔
      (∀ character, line.head? = some character → isBlank character = false) ∧
        ∀ character, line.getLast? = some character → isBlank character = false := by
  rw [← trimStart_eq_self_iff, ← trimEnd_eq_self_iff]
  constructor
  · intro same
    have suffix : trimStart line <:+ line := List.dropWhile_suffix isBlank
    have long := (prefix_trimEnd (trimStart line)).length_le
    rw [← trim, same] at long
    have atStart : trimStart line = line := suffix.eq_of_length_le long
    refine ⟨atStart, ?_⟩
    rwa [trim, atStart] at same
  · rintro ⟨atStart, atEnd⟩
    rw [trim, atStart, atEnd]

/-- Nothing is trimmed from a text before other text, unless that is trimmed away. -/
theorem trimEnd_append_eq (line trailing : List Char) :
    trimEnd (line ++ trailing) =
      if trimEnd trailing = [] then trimEnd line else line ++ trimEnd trailing := by
  unfold trimEnd
  rw [List.reverse_append, List.dropWhile_append]
  simp only [List.isEmpty_iff, List.reverse_eq_nil_iff]
  split
  · rfl
  · rw [List.reverse_append, List.reverse_reverse]

theorem isBlank_of_head?_trim {character : Char} (first : (trim line).head? = some character) :
    isBlank character = false := by
  rcases prefix_trimEnd (trimStart line) with ⟨blanks, whole⟩
  have begins : (trimStart line).head? = some character := by
    rw [trim] at first
    rw [← whole, List.head?_append, first, Option.some_or]
  have visible := List.head?_dropWhile_not isBlank line
  rw [trimStart] at begins
  rwa [begins] at visible

theorem trim_trim (line : List Char) : trim (trim line) = trim line := by
  rw [trim_eq_self_iff]
  refine ⟨fun character => isBlank_of_head?_trim, fun character last => ?_⟩
  have visible := List.head?_dropWhile_not isBlank (trimStart line).reverse
  rw [trim, trimEnd, List.getLast?_reverse] at last
  rwa [last] at visible

end Text

end Precommit
