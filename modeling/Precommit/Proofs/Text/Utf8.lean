import Mathlib.Data.List.Basic
import Precommit.Text.Utf8

/-!
# Decoding what was encoded

The bytes of a character take the decoder from between characters through the
character and back, so a text that is encoded is decoded again without faults.
-/

namespace Precommit

namespace Utf8

theorem start_one : ∀ code < 0x80,
    start (UInt8.ofNat code) = ([some (Char.ofNat code)], .ready) := by
  decide +kernel

theorem start_two : ∀ bits < 0x20, 2 ≤ bits →
    start (UInt8.ofNat (bits + 0xC0)) = ([], .expecting 1 0x80 0xBF bits) := by
  decide +kernel

theorem start_three : ∀ bits < 0x10, start (UInt8.ofNat (bits + 0xE0)) =
    ([], .expecting 2 (if bits = 0 then 0xA0 else 0x80) (if bits = 13 then 0x9F else 0xBF)
      bits) := by
  decide +kernel

theorem start_four : ∀ bits < 5, start (UInt8.ofNat (bits + 0xF0)) =
    ([], .expecting 3 (if bits = 0 then 0x90 else 0x80) (if bits = 4 then 0x8F else 0xBF)
      bits) := by
  decide +kernel

/-- The bounds of all continuation bytes but some that come right after the first byte. -/
theorem regular_bounds {more : Nat} (short : more < 0x40) :
    (0x80 : UInt8).toNat ≤ more + 0x80 ∧ more + 0x80 ≤ (0xBF : UInt8).toNat := by
  simp only [UInt8.reduceToNat]
  omega

section

variable {bits more : Nat} {lowest highest : UInt8} (rest : Bytes)

/-- A continuation byte within the bounds adds its six bits. -/
theorem step_expecting (count : Nat) (short : more < 0x40)
    (within : lowest.toNat ≤ more + 0x80 ∧ more + 0x80 ≤ highest.toNat) :
    step (.expecting count lowest highest bits) (UInt8.ofNat (more + 0x80)) =
      if count ≤ 1 then ([some (Char.ofNat (bits * 0x40 + more))], .ready)
      else ([], .expecting (count - 1) 0x80 0xBF (bits * 0x40 + more)) := by
  have value : (UInt8.ofNat (more + 0x80)).toNat = more + 0x80 := by
    rw [UInt8.toNat_ofNat']
    omega
  have fits : (lowest ≤ UInt8.ofNat (more + 0x80) && UInt8.ofNat (more + 0x80) ≤ highest) =
      true := by
    simp only [UInt8.le_iff_toNat_le, value, Bool.and_eq_true, decide_eq_true_eq]
    exact within
  simp only [step, fits, if_true, value, Nat.add_sub_cancel]

theorem scanFrom_more (count : Nat) (short : more < 0x40)
    (within : lowest.toNat ≤ more + 0x80 ∧ more + 0x80 ≤ highest.toNat) :
    scanFrom (.expecting (count + 2) lowest highest bits) (UInt8.ofNat (more + 0x80) :: rest) =
      scanFrom (.expecting (count + 1) 0x80 0xBF (bits * 0x40 + more)) rest := by
  rw [scanFrom, step_expecting (count + 2) short within, if_neg (by omega)]
  rfl

theorem scanFrom_last (short : more < 0x40)
    (within : lowest.toNat ≤ more + 0x80 ∧ more + 0x80 ≤ highest.toNat) :
    scanFrom (.expecting 1 lowest highest bits) (UInt8.ofNat (more + 0x80) :: rest) =
      some (Char.ofNat (bits * 0x40 + more)) :: scanFrom .ready rest := by
  rw [scanFrom, step_expecting 1 short within, if_pos (Nat.le_refl 1)]
  rfl

end

theorem scanFrom_encodeChar (character : Char) (rest : Bytes) :
    scanFrom .ready (String.utf8EncodeChar character ++ rest) =
      some character :: scanFrom .ready rest := by
  have valid := character.valid
  have same : Char.ofNat character.val.toNat = character := Char.ofNat_toNat character
  unfold String.utf8EncodeChar
  generalize code_eq : character.val.toNat = code at same ⊢
  have bounds : code < 0xD800 ∨ 0xDFFF < code ∧ code < 0x110000 := by
    rw [← code_eq]
    exact valid
  have low : code % 0x40 < 0x40 := Nat.mod_lt _ (by decide)
  have middle : code / 64 % 0x40 < 0x40 := Nat.mod_lt _ (by decide)
  have high : code / 4096 % 0x40 < 0x40 := Nat.mod_lt _ (by decide)
  simp only
  split
  · rw [List.singleton_append, scanFrom, step, start_one code (by omega), same]
    rfl
  · split
    · have whole : code / 64 % 0x20 * 0x40 + code % 0x40 = code := by omega
      simp only [List.cons_append, List.nil_append]
      rw [scanFrom, step, start_two _ (by omega) (by omega), List.nil_append,
        scanFrom_last _ low (regular_bounds low), whole, same]
    · split
      · have whole : (code / 4096 % 0x10 * 0x40 + code / 64 % 0x40) * 0x40 + code % 0x40 = code := by
          omega
        -- neither overlong forms nor surrogates come about
        have within : (if code / 4096 % 0x10 = 0 then 0xA0 else 0x80 : UInt8).toNat ≤
              code / 64 % 0x40 + 0x80 ∧
            code / 64 % 0x40 + 0x80 ≤
              (if code / 4096 % 0x10 = 13 then 0x9F else 0xBF : UInt8).toNat := by
          constructor
          · split <;> simp only [UInt8.reduceToNat] <;> omega
          · split <;> simp only [UInt8.reduceToNat] <;> omega
        simp only [List.cons_append, List.nil_append]
        rw [scanFrom, step, start_three _ (by omega), List.nil_append,
          scanFrom_more _ 0 middle within, scanFrom_last _ low (regular_bounds low), whole, same]
      · have whole : ((code / 262144 % 0x08 * 0x40 + code / 4096 % 0x40) * 0x40 +
            code / 64 % 0x40) * 0x40 + code % 0x40 = code := by
          omega
        have within : (if code / 262144 % 0x08 = 0 then 0x90 else 0x80 : UInt8).toNat ≤
              code / 4096 % 0x40 + 0x80 ∧
            code / 4096 % 0x40 + 0x80 ≤
              (if code / 262144 % 0x08 = 4 then 0x8F else 0xBF : UInt8).toNat := by
          constructor
          · split <;> simp only [UInt8.reduceToNat] <;> omega
          · split <;> simp only [UInt8.reduceToNat] <;> omega
        simp only [List.cons_append, List.nil_append]
        rw [scanFrom, step, start_four _ (by omega), List.nil_append,
          scanFrom_more _ 1 high within, scanFrom_more _ 0 middle (regular_bounds middle),
          scanFrom_last _ low (regular_bounds low), whole, same]

theorem scan_encode (text : List Char) : scan (encode text) = text.map some := by
  induction text with
  | nil => rfl
  | cons character rest ih =>
      rw [encode, List.flatMap_cons, scan, scanFrom_encodeChar, List.map_cons, ← ih]
      rfl

/-- A text that is encoded can be decoded. -/
theorem decode?_encode (text : List Char) : decode? (encode text) = some text := by
  rw [decode?, scan_encode]
  induction text with
  | nil => rfl
  | cons character rest ih => simp [List.mapM_cons, ih]

/-- A string is kept as the bytes of its characters. -/
theorem bytes_eq_encode (text : String) : text.toByteArray.data.toList = encode text.toList := by
  have spelled := String.ofList_toList (s := text)
  rw [← spelled, String.toByteArray_ofList, String.toList_ofList]
  simp [List.utf8Encode, encode]

/-- The decoder finds the characters of a string; in literals it is the fastest way to do so. -/
theorem toList_eq_decode (text : String) :
    text.toList = (decode? text.toByteArray.data.toList).getD [] := by
  rw [bytes_eq_encode, decode?_encode, Option.getD_some]

/-- Every character takes at least one byte. -/
theorem length_le_length_encode (text : List Char) : text.length ≤ (encode text).length := by
  induction text with
  | nil => exact Nat.le_refl 0
  | cons character rest ih =>
      have size := character.utf8Size_pos
      simp only [encode, List.flatMap_cons, List.length_append, String.length_utf8EncodeChar,
        List.length_cons] at ih ⊢
      omega

end Utf8

end Precommit
