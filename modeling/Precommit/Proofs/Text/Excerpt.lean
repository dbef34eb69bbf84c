import Mathlib.Data.List.Infix
import Precommit.Proofs.Text.Utf8
import Precommit.Text.Line

/-!
# Excerpts and bytes

An excerpt has a number of characters, but a text is kept as bytes. The place to cut is the
number of bytes before the first character that is left out (`charIndices`), so whatever the
widths of the characters are, whole characters remain (`truncateBytes_eq`).
-/

namespace Precommit

namespace Text

/-- The characters of a text, each with the number of bytes before it if `start` bytes precede. -/
def charIndicesFrom (start : Nat) : List Char → List (Nat × Char)
  | [] => []
  | character :: rest =>
      (start, character) :: charIndicesFrom (start + character.utf8Size) rest

/-- The characters of a text, each with the number of bytes before it. -/
def charIndices (text : List Char) : List (Nat × Char) :=
  charIndicesFrom 0 text

/-- The bytes of a text before its character at a position, or all if the text ends before. -/
def truncateBytes (length : Nat) (text : List Char) : Bytes :=
  match (charIndices text)[length]? with
  | some (index, _) => (Utf8.encode text).take index
  | none => Utf8.encode text

theorem getElem?_charIndicesFrom (start position : Nat) (text : List Char) :
    (charIndicesFrom start text)[position]? =
      text[position]?.map fun character =>
        (start + (Utf8.encode (text.take position)).length, character) := by
  induction text generalizing start position with
  | nil => rfl
  | cons character rest ih =>
      cases position with
      | zero => rfl
      | succ position =>
          have width : (Utf8.encode (character :: rest.take position)).length =
              character.utf8Size + (Utf8.encode (rest.take position)).length := by
            rw [Utf8.encode, List.flatMap_cons, List.length_append, String.length_utf8EncodeChar]
            rfl
          rw [charIndicesFrom, List.getElem?_cons_succ, ih, List.getElem?_cons_succ,
            List.take_succ_cons, width, Nat.add_assoc]

/-- What is cut off begins with a character, so the bytes that remain are those of an excerpt. -/
theorem truncateBytes_eq (length : Nat) (text : List Char) :
    truncateBytes length text = Utf8.encode (excerpt length text) := by
  rw [truncateBytes, charIndices, getElem?_charIndicesFrom, excerpt]
  cases next : text[length]? with
  | none => rw [Option.map_none, List.take_of_length_le (List.getElem?_eq_none_iff.1 next)]
  | some character =>
      have halves : Utf8.encode text =
          Utf8.encode (text.take length) ++ Utf8.encode (text.drop length) := by
        rw [Utf8.encode, Utf8.encode, Utf8.encode, ← List.flatMap_append, List.take_append_drop]
      rw [Option.map_some, Nat.zero_add, halves]
      exact List.take_left

theorem length_excerpt (length : Nat) (text : List Char) :
    (excerpt length text).length = min length text.length :=
  List.length_take

variable {shorter longer : Nat}

theorem excerpt_excerpt (le : shorter ≤ longer) (text : List Char) :
    excerpt shorter (excerpt longer text) = excerpt shorter text := by
  rw [excerpt, excerpt, List.take_take, Nat.min_eq_left le, excerpt]

theorem excerpt_prefix_excerpt (le : shorter ≤ longer) (text : List Char) :
    excerpt shorter text <+: excerpt longer text :=
  List.take_prefix_take_left le

/-- A longer excerpt has more characters unless the shorter one has all of them already. -/
theorem excerpt_eq_excerpt_iff (le : shorter ≤ longer) (text : List Char) :
    excerpt longer text = excerpt shorter text ↔ text.length ≤ shorter ∨ shorter = longer := by
  constructor
  · intro same
    have lengths := congrArg List.length same
    rw [length_excerpt, length_excerpt] at lengths
    omega
  · rintro (short | rfl)
    · rw [excerpt, excerpt, List.take_of_length_le short,
        List.take_of_length_le (Nat.le_trans short le)]
    · rfl

end Text

end Precommit
