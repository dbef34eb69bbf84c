import Mathlib.Algebra.Group.Nat.Defs
import Precommit.Proofs.Text.Utf8
import Precommit.Text.Line

/-!
# Bytes that are characters of their own

A byte below 0x80 is a character of its own in every state of the decoder: it continues no
sequence, and no longer sequence stands for its character. So bytes can be split at such a
byte before they are decoded as well as afterwards, however broken the pieces are.
-/

namespace Precommit

namespace Utf8

theorem toNat_ofNat (code : Nat) :
    (Char.ofNat code).toNat = if code.isValidChar then code else 0 := by
  by_cases valid : code.isValidChar
  · have same : Char.ofNat code = Char.ofNatAux code valid := dif_pos valid
    rw [same, if_pos valid]
    rfl
  · have same : Char.ofNat code = '\x00' := dif_neg valid
    rw [same, if_neg valid]
    rfl

/--
The byte that is due is no character of its own, and neither will the character be that was
begun, not even with the least bytes that can complete it.
-/
def State.IsBeyondAscii : State → Prop
  | .ready => True
  | .expecting count lowest _ bits =>
      0x80 ≤ lowest ∧ 0x80 ≤ (bits * 0x40 + (lowest.toNat - 0x80)) * 0x40 ^ (count - 1)

instance (state : State) : Decidable state.IsBeyondAscii :=
  match state with
  | .ready => inferInstanceAs (Decidable True)
  | .expecting .. => inferInstanceAs (Decidable (_ ∧ _))

variable {state : State} {byte other : UInt8}

/-- A first byte is a character, is wrong or begins a sequence. -/
theorem start_cases (byte : UInt8) :
    start byte = ([some (Char.ofNat byte.toNat)], .ready) ∨ start byte = ([none], .ready) ∨
      (start byte).1 = [] ∧ (start byte).2 ≠ .ready := by
  have each : ∀ code < 0x100,
      start (UInt8.ofNat code) = ([some (Char.ofNat (UInt8.ofNat code).toNat)], .ready) ∨
        start (UInt8.ofNat code) = ([none], .ready) ∨
        (start (UInt8.ofNat code)).1 = [] ∧ (start (UInt8.ofNat code)).2 ≠ .ready := by
    decide +kernel
  have holds := each byte.toNat byte.toNat_lt
  rwa [UInt8.ofNat_toNat] at holds

theorem start_of_small (small : byte < 0x80) :
    start byte = ([some (Char.ofNat byte.toNat)], .ready) := by
  rw [start, if_pos small]

theorem isBeyondAscii_ready : State.ready.IsBeyondAscii :=
  trivial

theorem isBeyondAscii_start (byte : UInt8) : (start byte).2.IsBeyondAscii := by
  have each : ∀ code < 0x100, (start (UInt8.ofNat code)).2.IsBeyondAscii := by decide +kernel
  have holds := each byte.toNat byte.toNat_lt
  rwa [UInt8.ofNat_toNat] at holds

/-- A byte that fits leaves the least code that can come about no smaller. -/
theorem isBeyondAscii_step (beyond : state.IsBeyondAscii) (byte : UInt8) :
    (step state byte).2.IsBeyondAscii := by
  cases state with
  | ready => exact isBeyondAscii_start byte
  | expecting count lowest highest bits =>
      rcases beyond with ⟨large, beyond⟩
      simp only [step]
      split
      · rename_i fits
        rw [Bool.and_eq_true, decide_eq_true_eq, UInt8.le_iff_toNat_le] at fits
        split
        · trivial
        · rename_i more
          refine ⟨by decide, Nat.le_trans beyond ?_⟩
          have power : (0x40 : Nat) ^ (count - 1) = 0x40 * 0x40 ^ (count - 1 - 1) := by
            rw [← Nat.pow_succ', Nat.succ_eq_add_one, Nat.sub_add_cancel (by omega)]
          rw [power, ← Nat.mul_assoc]
          apply Nat.mul_le_mul_right
          simp only [UInt8.reduceToNat]
          omega
      · exact isBeyondAscii_start byte

/-- A small byte ends the sequence that was begun, if any, and is read as its character. -/
theorem step_of_small (beyond : state.IsBeyondAscii) (small : byte < 0x80) :
    step state byte = (scanFrom state [] ++ [some (Char.ofNat byte.toNat)], .ready) := by
  cases state with
  | ready => exact start_of_small small
  | expecting count lowest highest bits =>
      have unfit : (lowest ≤ byte && byte ≤ highest) = false := by
        rw [Bool.and_eq_false_iff, decide_eq_false_iff_not]
        exact .inl fun fits => absurd (UInt8.lt_of_le_of_lt (UInt8.le_trans beyond.1 fits) small)
          (by decide)
      simp [step, unfit, start_of_small small, scanFrom]

theorem scanFrom_append_cons (beyond : state.IsBeyondAscii) (small : byte < 0x80)
    (bytes rest : Bytes) :
    scanFrom state (bytes ++ byte :: rest) =
      scanFrom state bytes ++ some (Char.ofNat byte.toNat) :: scanFrom .ready rest := by
  induction bytes generalizing state with
  | nil =>
      rw [List.nil_append, scanFrom, step_of_small beyond small]
      simp
  | cons initial bytes ih =>
      rw [List.cons_append, scanFrom, ih (isBeyondAscii_step beyond initial), scanFrom.eq_def state]
      simp

section Own

variable (positive : 0 < byte) (small : byte < 0x80)

include positive small

/-- The character of a small byte is no other one, and not the one that an invalid code gives. -/
theorem toNat_eq_of_ofNat_eq {code : Nat} (same : Char.ofNat code = Char.ofNat byte.toNat) :
    code = byte.toNat := by
  simp only [UInt8.lt_iff_toNat_lt, UInt8.reduceToNat] at positive small
  have valid : byte.toNat.isValidChar := .inl (by omega)
  have codes := congrArg Char.toNat same
  rw [toNat_ofNat, toNat_ofNat, if_pos valid] at codes
  split at codes <;> omega

/-- Only the byte itself is read as its character. -/
theorem not_mem_start (ne : other ≠ byte) :
    some (Char.ofNat byte.toNat) ∉ (start other).1 := by
  intro member
  have own : Char.ofNat byte.toNat = Char.ofNat other.toNat := by
    rcases start_cases other with starts | starts | ⟨starts, _⟩ <;> rw [starts] at member
    · exact Option.some.inj (List.mem_singleton.1 member)
    · cases List.mem_singleton.1 member
    · cases member
  exact ne (UInt8.toNat_inj.1 (toNat_eq_of_ofNat_eq positive small own.symm))

theorem not_mem_step (beyond : state.IsBeyondAscii) (ne : other ≠ byte) :
    some (Char.ofNat byte.toNat) ∉ (step state other).1 := by
  have started := not_mem_start positive small ne
  cases state with
  | ready => exact started
  | expecting count lowest highest bits =>
      rcases beyond with ⟨large, beyond⟩
      simp only [step]
      split
      · rename_i fits
        rw [Bool.and_eq_true, decide_eq_true_eq, UInt8.le_iff_toNat_le] at fits
        split
        · rename_i last
          rw [Nat.sub_eq_zero_of_le last, Nat.pow_zero, Nat.mul_one] at beyond
          intro member
          have own := toNat_eq_of_ofNat_eq positive small
            (Option.some.inj (List.mem_singleton.1 member)).symm
          simp only [UInt8.lt_iff_toNat_lt, UInt8.reduceToNat] at small
          omega
        · exact List.not_mem_nil
      · simpa using started

theorem not_mem_scanFrom (beyond : state.IsBeyondAscii) {bytes : Bytes} (absent : byte ∉ bytes) :
    some (Char.ofNat byte.toNat) ∉ scanFrom state bytes := by
  induction bytes generalizing state with
  | nil => cases state <;> simp [scanFrom]
  | cons initial bytes ih =>
      rw [List.mem_cons, not_or] at absent
      rw [scanFrom, List.mem_append, not_or]
      exact ⟨not_mem_step positive small beyond (Ne.symm absent.1),
        ih (isBeyondAscii_step beyond initial) absent.2⟩

theorem not_mem_decodeLossy {bytes : Bytes} (absent : byte ∉ bytes) :
    Char.ofNat byte.toNat ∉ decodeLossy bytes := by
  intro member
  rcases List.mem_map.1 member with ⟨read, listed, same⟩
  cases read with
  | some character =>
      rw [Option.getD_some] at same
      rw [same] at listed
      exact not_mem_scanFrom positive small isBeyondAscii_ready absent listed
  | none =>
      have own : 0xFFFD = byte.toNat := toNat_eq_of_ofNat_eq positive small same
      simp only [UInt8.lt_iff_toNat_lt, UInt8.reduceToNat] at small
      omega

end Own

/-- Decoding can start afresh at a small byte. -/
theorem decodeLossy_append_cons (small : byte < 0x80) (bytes rest : Bytes) :
    decodeLossy (bytes ++ byte :: rest) =
      decodeLossy bytes ++ Char.ofNat byte.toNat :: decodeLossy rest := by
  simp [decodeLossy, scan, scanFrom_append_cons isBeyondAscii_ready small]

/-- A sequence that was begun is read as something in the end. -/
theorem scanFrom_ne_nil (begun : state ≠ .ready) (bytes : Bytes) : scanFrom state bytes ≠ [] := by
  induction bytes generalizing state with
  | nil => cases state <;> simp_all [scanFrom]
  | cons byte rest ih =>
      cases state with
      | ready => exact absurd rfl begun
      | expecting count lowest highest bits =>
          rw [scanFrom, step]
          split
          · split
            · simp
            · simpa using ih (by simp)
          · simp

theorem decodeLossy_eq_nil_iff {bytes : Bytes} : decodeLossy bytes = [] ↔ bytes = [] := by
  constructor
  · intro nothing
    cases bytes with
    | nil => rfl
    | cons byte rest =>
        rw [decodeLossy, List.map_eq_nil_iff, scan, scanFrom, step, List.append_eq_nil_iff] at nothing
        rcases start_cases byte with starts | starts | ⟨_, begun⟩
        · rw [starts] at nothing
          cases nothing.1
        · rw [starts] at nothing
          cases nothing.1
        · exact absurd nothing.2 (scanFrom_ne_nil begun rest)
  · rintro rfl
    rfl

section Edge

variable {bytes : Bytes}

/-- What a small byte at the end leaves of the bytes before it. -/
theorem decodeLossy_append_of_ends (ends : ∀ last ∈ bytes.getLast?, last < 0x80) (rest : Bytes) :
    decodeLossy (bytes ++ rest) = decodeLossy bytes ++ decodeLossy rest ∧
      (decodeLossy bytes).getLast? = bytes.getLast?.map fun last => Char.ofNat last.toNat := by
  cases last_eq : bytes.getLast? with
  | none =>
      rw [List.getLast?_eq_none_iff.1 last_eq]
      exact ⟨rfl, rfl⟩
  | some last =>
      rcases List.getLast?_eq_some_iff.1 last_eq with ⟨kept, rfl⟩
      have small := ends last last_eq
      constructor
      · rw [List.append_assoc, List.singleton_append, decodeLossy_append_cons small,
          decodeLossy_append_cons small, List.append_assoc]
        rfl
      · rw [decodeLossy_append_cons small]
        exact List.getLast?_concat

theorem decodeLossy_append_of_begins (begins : ∀ first ∈ bytes.head?, first < 0x80)
    (before : Bytes) :
    decodeLossy (before ++ bytes) = decodeLossy before ++ decodeLossy bytes ∧
      (decodeLossy bytes).head? = bytes.head?.map fun first => Char.ofNat first.toNat := by
  cases bytes with
  | nil =>
      rw [List.append_nil]
      exact ⟨(List.append_nil _).symm, rfl⟩
  | cons first rest =>
      have small := begins first rfl
      have whole := decodeLossy_append_cons small [] rest
      rw [List.nil_append] at whole
      rw [decodeLossy_append_cons small, whole]
      exact ⟨rfl, rfl⟩

end Edge

/-- Bytes can be split at a small byte before they are decoded or afterwards. -/
theorem split_decodeLossy (positive : 0 < byte) (small : byte < 0x80) (content : Bytes) :
    Text.split (Char.ofNat byte.toNat) (decodeLossy content) =
      (content.splitOn byte).map decodeLossy := by
  rw [Text.split_eq_splitOn]
  induction length_eq : content.length using Nat.strongRecOn generalizing content with
  | ind length ih =>
      subst length_eq
      by_cases member : byte ∈ content
      · rcases List.append_of_mem member with ⟨before, after, rfl⟩
        have shorter : before.length < (before ++ byte :: after).length ∧
            after.length < (before ++ byte :: after).length := by
          simp only [List.length_append, List.length_cons]
          omega
        rw [decodeLossy_append_cons small, List.splitOn_append_cons_self,
          List.splitOn_append_cons_self, List.map_append, ih _ shorter.1 _ rfl,
          ih _ shorter.2 _ rfl]
      · rw [List.splitOn_eq_singleton (not_mem_decodeLossy positive small member),
          List.splitOn_eq_singleton member]
        rfl

theorem decodeLossy_encode (text : List Char) : decodeLossy (encode text) = text := by
  rw [decodeLossy, scan_encode, List.map_map]
  exact List.map_id text

/-- A byte below 0x80 is the character that it stands for, and part of no other. -/
theorem mem_of_mem_encode {text : List Char} {byte : UInt8} (small : byte < 0x80)
    (member : byte ∈ encode text) : Char.ofNat byte.toNat ∈ text := by
  rcases List.append_of_mem member with ⟨before, after, split⟩
  have decoded := decodeLossy_append_cons small before after
  rw [← split, decodeLossy_encode] at decoded
  rw [decoded]
  simp

end Utf8

end Precommit
