import Mathlib.Data.List.Basic

/-!
# Decimal digits

A number is written without needless zeros at its beginning, and each number in its own way.
-/

namespace Precommit

namespace Text

theorem head?_toDigits {number : Nat} (positive : 0 < number) :
    (Nat.toDigits 10 number).head? ≠ some '0' := by
  induction number using Nat.strongRecOn with
  | ind number ih =>
      by_cases small : number < 10
      · rw [Nat.toDigits_of_lt_base small, List.head?_cons, Ne, Option.some_inj,
          Nat.digitChar_eq_zero]
        exact Nat.ne_of_gt positive
      · have first := ih (number / 10) (by omega) (by omega)
        rw [Nat.toDigits_of_base_le (by decide) (by omega),
          List.head?_append_of_ne_nil _ Nat.toDigits_ne_nil]
        exact first

/-- The digits of a number are digits. -/
theorem isDigit_of_mem_toDigits {number : Nat} :
    ∀ digit ∈ Nat.toDigits 10 number, digit.isDigit = true :=
  fun _ => Nat.isDigit_of_mem_toDigits (by decide) (by decide)

/-- Different numbers have different digits. -/
theorem toDigits_injective : Function.Injective (Nat.toDigits 10) := by
  apply Function.LeftInverse.injective (g := fun digits => Nat.ofDigitChars 10 digits 0)
  intro number
  exact Nat.ofDigitChars_ten_toDigits

theorem exists_toDigits_eq_cons (number : Nat) :
    ∃ digit digits, Nat.toDigits 10 number = digit :: digits ∧ digit.isDigit = true := by
  cases digits_eq : Nat.toDigits 10 number with
  | nil => exact absurd digits_eq Nat.toDigits_ne_nil
  | cons digit digits =>
      have member : digit ∈ Nat.toDigits 10 number := by
        rw [digits_eq]
        exact List.mem_cons_self
      exact ⟨digit, digits, rfl, isDigit_of_mem_toDigits digit member⟩

end Text

end Precommit
