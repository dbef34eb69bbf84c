import Mathlib.Data.List.Basic
import Precommit.Proofs.Text.Utf8

/-!
# The order of encoded texts

Texts come in the same order whether they are compared by characters or by the bytes of their
encoding. More bits of a character need more bytes with a greater first byte, and in as many
bytes the higher bits come first, so the first bytes that differ decide as the characters do.
-/

namespace Precommit

namespace Utf8

theorem ofNat_lt_ofNat_iff {code code' : Nat} (small : code < 256) (small' : code' < 256) :
    UInt8.ofNat code < UInt8.ofNat code' ↔ code < code' :=
  UInt8.ofNat_lt_iff_lt small small'

theorem ofNat_eq_ofNat_iff {code code' : Nat} (small : code < 256) (small' : code' < 256) :
    UInt8.ofNat code = UInt8.ofNat code' ↔ code = code' := by
  rw [← UInt8.toNat_inj, UInt8.toNat_ofNat', UInt8.toNat_ofNat', Nat.mod_eq_of_lt small,
    Nat.mod_eq_of_lt small']

/-- The bytes of two characters differ before either comes to its end. -/
theorem encodeChar_append_lt {character character' : Char} (lt : character < character')
    (rest rest' : Bytes) :
    String.utf8EncodeChar character ++ rest < String.utf8EncodeChar character' ++ rest' := by
  have order : character.val.toNat < character'.val.toNat := lt
  have bound : character'.val.toNat < 0x110000 := by
    rcases character'.valid with low | ⟨_, high⟩ <;> omega
  -- Each byte holds a digit to the base 64.
  have digits (code : Nat) :
      code / 4096 = code / 64 / 64 ∧ code / 262144 = code / 64 / 64 / 64 := by
    omega
  unfold String.utf8EncodeChar
  generalize character.val.toNat = code at order ⊢
  generalize character'.val.toNat = code' at order bound ⊢
  simp only [digits]
  repeat' split
  all_goals
    simp (disch := omega) only [List.cons_append, List.nil_append, List.cons_lt_cons_iff,
      ofNat_lt_ofNat_iff, ofNat_eq_ofNat_iff]
    omega

theorem encode_lt_encode {text text' : List Char} (lt : text < text') :
    encode text < encode text' := by
  induction text generalizing text' with
  | nil =>
      cases text' with
      | nil => exact absurd lt (List.lt_irrefl _)
      | cons character' rest' =>
          have long := length_le_length_encode (character' :: rest')
          cases encoded : encode (character' :: rest') with
          | nil => simp [encoded] at long
          | cons byte bytes => exact List.nil_lt_cons byte bytes
  | cons character rest ih =>
      cases text' with
      | nil => exact absurd lt (List.not_lt_nil _)
      | cons character' rest' =>
          simp only [encode, List.flatMap_cons]
          rcases List.cons_lt_cons_iff.1 lt with first | ⟨rfl, later⟩
          · exact encodeChar_append_lt first _ _
          · apply List.append_left_lt
            exact ih later

end Utf8

end Precommit
