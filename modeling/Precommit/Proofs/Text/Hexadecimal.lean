import Mathlib.Data.Nat.Digits.Defs
import Precommit.Proofs.Outcome
import Precommit.Text.Hexadecimal

/-!
# Digits and their values

The digits of a number in a base have values below the base, which add up to the number
again. A code point is read from its hexadecimal digits, be they small or capital letters,
and with any number of zeros before them.
-/

namespace Precommit

namespace Text

theorem exists_toDigits_eq_map {base : Nat} (large : 1 < base) (number : Nat) :
    ∃ values : List Nat, Nat.toDigits base number = values.map Nat.digitChar ∧
      (∀ value ∈ values, value < base) ∧
      values.foldl (fun number value => number * base + value) 0 = number := by
  induction number using Nat.strongRecOn with
  | ind number ih =>
      by_cases small : number < base
      · refine ⟨[number], Nat.toDigits_of_lt_base small, ?_, ?_⟩
        · intro value member
          rw [List.mem_singleton.1 member]
          exact small
        · rw [List.foldl_cons, List.foldl_nil, Nat.zero_mul, Nat.zero_add]
      · -- The last digit is apart from those of the quotient, which is smaller.
        have positive : 0 < base := by omega
        have less : number / base < number := Nat.div_lt_self (by omega) large
        rcases ih (number / base) less with ⟨values, digits, below, total⟩
        refine ⟨values ++ [number % base], ?_, ?_, ?_⟩
        · rw [Nat.toDigits_of_base_le large (Nat.not_lt.1 small), digits, List.map_append,
            List.map_singleton]
        · intro value member
          rcases List.mem_append.1 member with member | member
          · exact below value member
          · rw [List.mem_singleton.1 member]
            exact Nat.mod_lt number positive
        · rw [List.foldl_append, total, List.foldl_cons, List.foldl_nil, Nat.div_add_mod']

theorem hexDigit?_digitChar : ∀ value < 16, hexDigit? (Nat.digitChar value) = some value := by
  decide

theorem hexDigit?_toLower (character : Char) :
    hexDigit? character.toLower = hexDigit? character := by
  have ascii : ∀ code < 0x80,
      hexDigit? (Char.ofNat code).toLower = hexDigit? (Char.ofNat code) := by
    decide +kernel
  by_cases small : character.toNat < 0x80
  · have same := ascii character.toNat small
    rwa [Char.ofNat_toNat] at same
  · have unchanged : character.toLower = character := by
      apply dif_neg
      rintro ⟨-, capital⟩
      exact small (Nat.lt_of_le_of_lt (UInt32.le_iff_toNat_le.1 capital) (by decide))
    rw [unchanged]

/-- Hexadecimal digits of a number, with zeros before them or none. -/
def IsHexadecimal (digits : List Char) (number : Nat) : Prop :=
  ∃ zeros, digits.map Char.toLower = List.replicate zeros '0' ++ Nat.toDigits 16 number

/-- A number that is small enough can be written with a given number of digits. -/
theorem exists_isHexadecimal {number width : Nat} (positive : 0 < width)
    (small : number < 16 ^ width) :
    ∃ digits, digits.length = width ∧ IsHexadecimal digits number := by
  have short := Nat.toDigits_length 16 number width positive small
  have lower : ∀ value < 16, (Nat.digitChar value).toLower = Nat.digitChar value := by
    decide
  refine ⟨List.replicate (width - (Nat.toDigits 16 number).length) '0' ++ Nat.toDigits 16 number,
    ?_, width - (Nat.toDigits 16 number).length, ?_⟩
  · rw [List.length_append, List.length_replicate]
    omega
  · rcases exists_toDigits_eq_map (show 1 < 16 by decide) number with ⟨values, digits, below, _⟩
    rw [digits, List.map_append, List.map_replicate, List.map_map]
    congr 1
    exact List.map_congr_left fun value member => lower value (below value member)

theorem foldl_replicate_zero (base zeros : Nat) :
    (List.replicate zeros 0).foldl (fun number value => number * base + value) 0 = 0 := by
  induction zeros with
  | zero => rfl
  | succ zeros ih => rw [List.replicate_succ, List.foldl_cons, Nat.zero_mul, ih]

theorem IsHexadecimal.exists_mapM {digits : List Char} {number : Nat}
    (written : IsHexadecimal digits number) :
    ∃ values, digits.mapM hexDigit? = some values ∧ values ≠ [] ∧
      values.foldl (fun number value => number * 16 + value) 0 = number := by
  rcases written with ⟨zeros, lower⟩
  rcases exists_toDigits_eq_map (show 1 < 16 by decide) number with ⟨values, digits_eq, below, total⟩
  have padded : digits.map Char.toLower = (List.replicate zeros 0 ++ values).map Nat.digitChar := by
    rw [lower, digits_eq, List.map_append, List.map_replicate]
    rfl
  refine ⟨List.replicate zeros 0 ++ values, ?_, ?_, ?_⟩
  · have sameDigits : hexDigit? ∘ Char.toLower = hexDigit? := funext hexDigit?_toLower
    rw [← sameDigits, ← List.mapM_map, padded]
    apply mapM_map_eq_some
    intro value member
    rcases List.mem_append.1 member with zero | member
    · rw [List.eq_of_mem_replicate zero]
      rfl
    · exact hexDigit?_digitChar value (below value member)
  · intro empty
    rw [(List.append_eq_nil_iff.1 empty).2, List.map_nil] at digits_eq
    exact Nat.toDigits_ne_nil digits_eq
  · rw [List.foldl_append, foldl_replicate_zero, total]

theorem IsHexadecimal.scalar? {digits : List Char} {character : Char}
    (written : IsHexadecimal digits character.toNat) : scalar? digits = some character := by
  rcases written.exists_mapM with ⟨values, read, nonempty, total⟩
  cases values with
  | nil => exact absurd rfl nonempty
  | cons first others =>
      have valid : character.toNat.isValidChar := character.valid
      simp only [Text.scalar?, read, total, if_pos valid, Char.ofNat_toNat]

end Text

end Precommit
