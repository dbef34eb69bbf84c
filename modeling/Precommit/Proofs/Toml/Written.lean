import Mathlib.Data.List.TakeWhile
import Precommit.Proofs.Text.Decimal
import Precommit.Proofs.Text.Hexadecimal
import Precommit.Proofs.Toml.Layout
import Precommit.Toml.Document

/-!
# Values as they may be written

There are many ways to write a string between quotes, as every character may be written as an
escape sequence and most characters may also stand for themselves. Whatever way is taken, the
reader finds the string and stops behind it; so it does for natural numbers in decimal digits
and for arrays of strings, which may go over several lines.
-/

namespace Precommit

namespace Toml

/-- Whether the character stands for itself in a basic string. -/
def isPlainCharacter (character : Char) : Bool :=
  isTextCharacter character && character != '"' && character != '\\'

/-- The characters that have escape sequences of their own, with the marks of these. -/
def escapes : List (Char × Char) :=
  [('\x08', 'b'), ('\t', 't'), ('\n', 'n'), ('\x0c', 'f'), ('\r', 'r'), ('"', '"'), ('\\', '\\')]

/-- The ways to write a character in a basic string. -/
inductive WritesCharacter : Char → List Char → Prop
  | plain {character : Char} (plain : isPlainCharacter character = true) :
      WritesCharacter character [character]
  | escape {character mark : Char} (escaped : (character, mark) ∈ escapes) :
      WritesCharacter character ['\\', mark]
  | short {character : Char} {digits : List Char} (length_eq : digits.length = 4)
      (written : Text.IsHexadecimal digits character.toNat) :
      WritesCharacter character ('\\' :: 'u' :: digits)
  | long {character : Char} {digits : List Char} (length_eq : digits.length = 8)
      (written : Text.IsHexadecimal digits character.toNat) :
      WritesCharacter character ('\\' :: 'U' :: digits)

/-- The ways to write a string between quotes. -/
inductive WritesString : String → List Char → Prop
  | mk {string : String} {pieces : List (List Char)}
      (written : List.Forall₂ WritesCharacter string.toList pieces) :
      WritesString string ('"' :: (pieces.flatten ++ ['"']))

/-- The ways to write strings between the brackets of an array, with a comma at the end or not. -/
inductive WritesItems : List String → List Char → Prop
  | none {filler : List Char} (blank : IsFiller filler) : WritesItems [] filler
  | last {item : String} {before text after : List Char} (blank : IsFiller before)
      (written : WritesString item text) (blank' : IsFiller after) :
      WritesItems [item] (before ++ (text ++ after))
  | more {item : String} {items : List String} {before text after rest : List Char}
      (blank : IsFiller before) (written : WritesString item text) (blank' : IsFiller after)
      (others : WritesItems items rest) :
      WritesItems (item :: items) (before ++ (text ++ (after ++ ',' :: rest)))

/-- The ways to write a string, a natural number or an array of strings. -/
inductive WritesValue : Value → List Char → Prop
  | string {string : String} {text : List Char} (written : WritesString string text) :
      WritesValue (.string string) text
  | natural (number : Nat) : WritesValue (.integer number) (Nat.toDigits 10 number)
  | strings {items : List String} {text : List Char} (written : WritesItems items text) :
      WritesValue (.array (items.map .string)) ('[' :: (text ++ [']']))

section Existence

theorem exists_writesCharacter (character : Char) : ∃ piece, WritesCharacter character piece := by
  have small : character.toNat < 16 ^ 8 := by
    have valid : character.toNat.isValidChar := character.valid
    rw [Nat.isValidChar] at valid
    omega
  rcases Text.exists_isHexadecimal (by decide) small with ⟨digits, length_eq, written⟩
  exact ⟨_, .long length_eq written⟩

/-- Every string can be written in some way. -/
theorem exists_writesString (string : String) : ∃ text, WritesString string text := by
  rcases exists_forall₂ fun character _ => exists_writesCharacter character with
    ⟨pieces, written⟩
  exact ⟨_, .mk written⟩

theorem exists_writesItems (items : List String) : ∃ text, WritesItems items text := by
  induction items with
  | nil => exact ⟨[], .none .nil⟩
  | cons item items ih =>
      rcases exists_writesString item with ⟨text, written⟩
      rcases ih with ⟨rest, others⟩
      exact ⟨_, .more .nil written .nil others⟩

end Existence

section Strings

variable {text : List Char} {rest : List Char}

theorem readEscape?_escapes : ∀ escaped ∈ escapes, ∀ rest,
    readEscape? (escaped.2 :: rest) = some (escaped.1, 1) := by
  intro escaped member rest
  simp only [escapes, List.mem_cons, List.not_mem_nil, or_false] at member
  rcases member with rfl | rfl | rfl | rfl | rfl | rfl | rfl <;> rfl

/-- Escape sequences that write code points differ in their marks and their numbers of digits. -/
theorem readEscape?_digits {mark character : Char} {width : Nat}
    (form : ∀ text, readEscape? (mark :: text) =
      if width ≤ text.length then
        (Text.scalar? (text.take width)).map fun character => (character, width + 1)
      else none)
    {digits : List Char} (length_eq : digits.length = width)
    (written : Text.IsHexadecimal digits character.toNat) (rest : List Char) :
    readEscape? (mark :: digits ++ rest) = some (character, (mark :: digits).length) := by
  have taken : (digits ++ rest).take width = digits := List.take_left' length_eq
  have enough : width ≤ (digits ++ rest).length := by
    rw [List.length_append]
    omega
  rw [List.cons_append, form, if_pos enough, taken, written.scalar?, List.length_cons, length_eq]
  rfl

theorem readBasic?_escape {character : Char} (marks : List Char) {read after : List Char}
    (escape : readEscape? (marks ++ rest) = some (character, marks.length))
    (others : readBasic? rest = some (read, after)) :
    readBasic? ('\\' :: (marks ++ rest)) = some (character :: read, after) := by
  rw [readBasic?, escape]
  simp only [List.drop_left, others, Option.map_some]

theorem WritesCharacter.readBasic? {character : Char} {piece read after : List Char}
    (written : WritesCharacter character piece) (others : readBasic? rest = some (read, after)) :
    readBasic? (piece ++ rest) = some (character :: read, after) := by
  cases written with
  | plain plain =>
      simp only [isPlainCharacter, Bool.and_eq_true, bne_iff_ne] at plain
      rcases plain with ⟨⟨printed, noQuote⟩, noEscape⟩
      rw [List.singleton_append, readBasic?.eq_4 _ _ noQuote noEscape, if_pos printed, others]
      rfl
  | escape escaped => exact readBasic?_escape [_] (readEscape?_escapes _ escaped rest) others
  | short length_eq written =>
      exact readBasic?_escape ('u' :: _)
        (readEscape?_digits (fun _ => rfl) length_eq written rest) others
  | long length_eq written =>
      exact readBasic?_escape ('U' :: _)
        (readEscape?_digits (fun _ => rfl) length_eq written rest) others

/-- No way to write a character begins with a quote, so it is not mistaken for the end. -/
theorem WritesCharacter.exists_eq_cons {character : Char} {piece : List Char}
    (written : WritesCharacter character piece) :
    ∃ initial others, piece = initial :: others ∧ initial ≠ '"' := by
  cases written with
  | plain plain =>
      simp only [isPlainCharacter, Bool.and_eq_true, bne_iff_ne] at plain
      exact ⟨_, _, rfl, plain.1.2⟩
  | escape => exact ⟨_, _, rfl, by decide⟩
  | short => exact ⟨_, _, rfl, by decide⟩
  | long => exact ⟨_, _, rfl, by decide⟩

theorem readBasic?_pieces {pieces : List (List Char)}
    (written : List.Forall₂ WritesCharacter text pieces) (rest : List Char) :
    readBasic? (pieces.flatten ++ '"' :: rest) = some (text, rest) := by
  induction written with
  | nil => rw [List.flatten_nil, List.nil_append, readBasic?]
  | cons first _ ih =>
      rw [List.flatten_cons, List.append_assoc]
      exact first.readBasic? ih

/-- Three quotes would begin a string of several lines. -/
theorem readString?_of_single (single : ∀ rest, text ≠ '"' :: '"' :: rest) :
    readString? ('"' :: text) =
      (readBasic? text).map fun (read, rest) => (String.ofList read, rest) := by
  unfold readString?
  split
  · rename_i opened
    exact absurd (List.cons.inj opened).2 (single _)
  · rename_i opened
    rw [(List.cons.inj opened).2]
  · rename_i opened
    exact absurd (List.cons.inj opened).1 (by decide)
  · rename_i opened
    exact absurd (List.cons.inj opened).1 (by decide)
  · rename_i unopened _ _
    exact (unopened _ rfl).elim

/-- The quote that ends a string is the second of three only if a third one follows. -/
theorem flatten_ne_quotes {pieces : List (List Char)}
    (written : List.Forall₂ WritesCharacter text pieces) (stop : rest.head? ≠ some '"')
    (others : List Char) : pieces.flatten ++ '"' :: rest ≠ '"' :: '"' :: others := by
  intro same
  cases written with
  | nil =>
      rw [List.flatten_nil, List.nil_append] at same
      rw [(List.cons.inj same).2] at stop
      exact stop rfl
  | cons first _ =>
      rcases first.exists_eq_cons with ⟨initial, _, rfl, noQuote⟩
      exact noQuote (List.cons.inj same).1

theorem WritesString.readString? {string : String} (written : WritesString string text)
    (stop : rest.head? ≠ some '"') : readString? (text ++ rest) = some (string, rest) := by
  rcases written with ⟨written⟩
  rw [List.cons_append, List.append_assoc, List.singleton_append,
    readString?_of_single (flatten_ne_quotes written stop), readBasic?_pieces written]
  simp only [Option.map_some, String.ofList_toList]

end Strings

section Numbers

variable {digits rest : List Char}

theorem ne_of_isDigit {character other : Char} (isDigit : character.isDigit = true)
    (special : other.isDigit = false) : character ≠ other := by
  rintro rfl
  rw [isDigit] at special
  cases special

theorem split_append (each : ∀ digit ∈ digits, digit.isDigit = true)
    (stop : Scalar.split rest = ([], rest)) : Scalar.split (digits ++ rest) = (digits, rest) := by
  induction digits with
  | nil => exact stop
  | cons digit digits ih =>
      rw [List.forall_mem_cons] at each
      have inside : Scalar.isDelimiter digit = false := by
        simp [Scalar.isDelimiter, ne_of_isDigit each.1]
      have printed : isSpace digit = false := by
        simp [isSpace, ne_of_isDigit each.1]
      rw [List.cons_append, Scalar.split, inside, printed, ih each.2]
      rfl

/-- Text without quotes ends at a delimiter, with or without spaces before it. -/
theorem split_of_skipSpaces {text others : List Char} {delimiter : Char}
    (skipped : skipSpaces text = delimiter :: others)
    (delimits : Scalar.isDelimiter delimiter = true) : Scalar.split text = ([], text) := by
  cases text with
  | nil => rfl
  | cons character text =>
      rw [Scalar.split, if_pos]
      by_cases space : isSpace character = true
      · have after : text.dropWhile isSpace = delimiter :: others := by
          rw [← skipped, skipSpaces, List.dropWhile_cons_of_pos space]
        rw [space, after]
        simp [Scalar.continues, delimits]
      · rw [skipSpaces, List.dropWhile_cons_of_neg space] at skipped
        rw [(List.cons.inj skipped).1, delimits, Bool.true_or]

theorem IsLineRest.split_append {line : List Char} (blank : IsLineRest line) (rest : List Char) :
    Scalar.split (line ++ rest) = ([], line ++ rest) := by
  rcases blank.exists_skipSpaces_eq_cons rest with ⟨mark, others, skipped, member⟩
  refine split_of_skipSpaces skipped ?_
  simp only [List.mem_cons, List.not_mem_nil, or_false] at member
  rcases member with rfl | rfl | rfl <;> decide

theorem dropSeparators?_digits (each : ∀ digit ∈ digits, digit.isDigit = true)
    (isDigit : Char → Bool) (before : Option Char) :
    Scalar.dropSeparators? isDigit before digits = some digits := by
  induction digits generalizing before with
  | nil => rfl
  | cons digit digits ih =>
      rw [List.forall_mem_cons] at each
      rw [Scalar.dropSeparators?, if_neg, ih each.2]
      · rfl
      · simp [ne_of_isDigit each.1]

theorem readDigits?_toDigits (number : Nat) :
    Scalar.readDigits? 10 (Nat.toDigits 10 number) = some number := by
  rcases Text.exists_toDigits_eq_map (show 1 < 10 by decide) number with
    ⟨values, digits, below, total⟩
  have read : ((values.map Nat.digitChar).mapM fun character =>
      (Text.hexDigit? character).filter (· < 10)) = some values := by
    apply mapM_map_eq_some
    intro value member
    have small := below value member
    rw [Text.hexDigit?_digitChar value (by omega), Option.filter_some,
      if_pos (decide_eq_true small)]
  have nonempty : ¬(values.map Nat.digitChar).isEmpty = true := by
    rw [← digits, List.isEmpty_iff]
    exact Nat.toDigits_ne_nil
  rw [Scalar.readDigits?, digits, if_neg nonempty, read]
  exact congrArg some total

theorem signed?_toDigits (number : Nat) :
    Scalar.signed? 10 (Nat.toDigits 10 number) = some (number : Int) := by
  have read := readDigits?_toDigits number
  rcases Text.exists_toDigits_eq_cons number with ⟨digit, others, digits, isDigit⟩
  rw [digits] at read ⊢
  rw [Scalar.signed?.eq_3, read]
  · rfl
  · rintro rest same
    exact ne_of_isDigit isDigit (by decide) (List.cons.inj same).1
  · rintro rest same
    exact ne_of_isDigit isDigit (by decide) (List.cons.inj same).1

theorem integer?_toDigits (number : Nat) :
    Scalar.integer? 10 (Nat.toDigits 10 number) = some (.integer number) := by
  rw [Scalar.integer?, dropSeparators?_digits Text.isDigit_of_mem_toDigits, Option.map_some,
    signed?_toDigits]

theorem number?_toDigits (number : Nat) :
    Scalar.number? (Nat.toDigits 10 number) (Nat.toDigits 10 number) =
      some (.integer number) := by
  have noMark : (Nat.toDigits 10 number).dropWhile Char.isDigit = [] :=
    List.dropWhile_eq_nil_iff.2 Text.isDigit_of_mem_toDigits
  have noZero : ((Nat.toDigits 10 number).head? == some '0' &&
      decide (2 ≤ (Nat.toDigits 10 number).length)) = false := by
    cases number with
    | zero => rfl
    | succ number => simp [Text.head?_toDigits (Nat.succ_pos number)]
  simp only [Scalar.number?, noMark, noZero]
  exact integer?_toDigits number

theorem ofSigned?_toDigits (number : Nat) :
    Scalar.ofSigned? (Nat.toDigits 10 number) (Nat.toDigits 10 number) =
      some (.integer number) := by
  have read := number?_toDigits number
  have each := @Text.isDigit_of_mem_toDigits number
  generalize digits_eq : Nat.toDigits 10 number = digits at read each
  unfold Scalar.ofSigned?
  split
  · -- A second digit is not the mark of a base.
    rename_i mark _
    have isDigit := each mark (List.mem_cons_of_mem _ List.mem_cons_self)
    rw [if_neg, read]
    simp [ne_of_isDigit isDigit]
  · rename_i initial _ _
    rw [each initial List.mem_cons_self, Bool.true_or, if_pos rfl, read]
  · exact absurd digits_eq Nat.toDigits_ne_nil

theorem ofText?_toDigits (number : Nat) :
    Scalar.ofText? (Nat.toDigits 10 number) = some (.integer number) := by
  have absent {special : Char} (noDigit : special.isDigit = false) {text : List Char}
      (same : Nat.toDigits 10 number = text) : special ∉ text := by
    rintro member
    rw [← same] at member
    exact ne_of_isDigit (Text.isDigit_of_mem_toDigits special member) noDigit rfl
  rw [Scalar.ofText?.eq_6, if_neg, if_neg, ofSigned?_toDigits]
  · exact fun same => absent (show 'f'.isDigit = false by decide) same (by decide)
  · exact fun same => absent (show 't'.isDigit = false by decide) same (by decide)
  · exact fun _ same => absent (show '+'.isDigit = false by decide) same (by simp)
  · exact fun _ same => absent (show '-'.isDigit = false by decide) same (by simp)
  · exact fun _ same => absent (show 'x'.isDigit = false by decide) same (by simp)
  · exact fun _ same => absent (show 'o'.isDigit = false by decide) same (by simp)
  · exact fun _ same => absent (show 'b'.isDigit = false by decide) same (by simp)

theorem read?_toDigits (number : Nat) (stop : Scalar.split rest = ([], rest)) :
    Scalar.read? (Nat.toDigits 10 number ++ rest) = some (.integer number, rest) := by
  rw [Scalar.read?, split_append Text.isDigit_of_mem_toDigits stop, ofText?_toDigits]
  rfl

end Numbers

section Values

variable {text rest : List Char}

theorem WritesString.exists_eq_cons {string : String} (written : WritesString string text) :
    ∃ others, text = '"' :: others := by
  cases written with
  | mk => exact ⟨_, rfl⟩

theorem WritesString.length_pos {string : String} (written : WritesString string text) :
    0 < text.length := by
  rcases written.exists_eq_cons with ⟨others, rfl⟩
  exact Nat.succ_pos _

theorem WritesString.readValue? {string : String} (written : WritesString string text)
    (stop : rest.head? ≠ some '"') (fuel nesting : Nat) :
    readValue? (fuel + 1) nesting (text ++ rest) = some (.string string, rest) := by
  have read := written.readString? stop
  rcases written.exists_eq_cons with ⟨others, rfl⟩
  rw [List.cons_append] at read ⊢
  rw [Toml.readValue?, read]
  rfl

section Items

variable {item : String} {before after : List Char}

theorem readItems?_last (blank : IsFiller before) (written : WritesString item text)
    (stop : rest.head? ≠ some '"') (closed : skipBlankLines rest = ']' :: after)
    (fuel nesting : Nat) :
    readItems? (fuel + 2) nesting (before ++ (text ++ rest)) = some ([.string item], after) := by
  have value := written.readValue? stop fuel nesting
  rcases written.exists_eq_cons with ⟨others, rfl⟩
  rw [List.cons_append] at value ⊢
  rw [readItems?, blank.skipBlankLines_append_cons (by decide)]
  simp [value, closed]

theorem readItems?_more (blank : IsFiller before) (written : WritesString item text)
    (stop : rest.head? ≠ some '"') (separated : skipBlankLines rest = ',' :: after)
    {fuel nesting : Nat} {items : List Value} {final : List Char}
    (others : readItems? (fuel + 1) nesting after = some (items, final)) :
    readItems? (fuel + 2) nesting (before ++ (text ++ rest)) =
      some (.string item :: items, final) := by
  have value := written.readValue? stop fuel nesting
  rcases written.exists_eq_cons with ⟨quoted, rfl⟩
  rw [List.cons_append] at value ⊢
  rw [readItems?, blank.skipBlankLines_append_cons (by decide)]
  simp [value, separated, others]

end Items

theorem WritesItems.readItems? {items : List String} (written : WritesItems items text)
    {fuel : Nat} (enough : text.length < fuel) (nesting : Nat) (rest : List Char) :
    readItems? fuel nesting (text ++ ']' :: rest) = some (items.map .string, rest) := by
  -- Every item takes a character or more, so the fuel outlasts the items.
  induction written generalizing fuel with
  | none blank =>
      rcases Nat.exists_eq_add_of_le' (Nat.one_le_of_lt enough) with ⟨fuel, rfl⟩
      rw [Toml.readItems?, blank.skipBlankLines_append_cons (by decide)]
      rfl
  | last blank written blank' =>
      have positive := written.length_pos
      rw [List.length_append, List.length_append] at enough
      rcases Nat.exists_eq_add_of_le' (show 2 ≤ fuel by omega) with ⟨fuel, rfl⟩
      rw [List.append_assoc, List.append_assoc]
      exact readItems?_last blank written
        (blank'.head?_append_cons_ne (by decide) (by decide) (by decide) rest)
        (blank'.skipBlankLines_append_cons (by decide) rest) fuel nesting
  | more blank written blank' others ih =>
      have positive := written.length_pos
      rw [List.length_append, List.length_append, List.length_append, List.length_cons] at enough
      rcases Nat.exists_eq_add_of_le' (show 2 ≤ fuel by omega) with ⟨fuel, rfl⟩
      rw [List.append_assoc, List.append_assoc, List.append_assoc, List.cons_append]
      exact readItems?_more blank written
        (blank'.head?_append_cons_ne (by decide) (by decide) (by decide) _)
        (blank'.skipBlankLines_append_cons (by decide) _) (ih (by omega))

theorem WritesValue.readValue? {value : Value} (written : WritesValue value text)
    {line : List Char} (blank : IsLineRest line) {fuel : Nat} (enough : text.length < fuel)
    (rest : List Char) :
    readValue? fuel 0 (text ++ (line ++ rest)) = some (value, line ++ rest) := by
  rcases Nat.exists_eq_add_of_le' (Nat.one_le_of_lt enough) with ⟨fuel, rfl⟩
  cases written with
  | string written => exact written.readValue? blank.head?_append_ne fuel 0
  | natural number =>
      have read := read?_toDigits number (blank.split_append rest)
      rcases Text.exists_toDigits_eq_cons number with ⟨digit, others, digits, isDigit⟩
      rw [digits, List.cons_append] at read ⊢
      have unopened {opening : Char} (noDigit : opening.isDigit = false) {rest' : List Char} :
          digit :: (others ++ (line ++ rest)) = opening :: rest' → False :=
        fun same => ne_of_isDigit isDigit noDigit (List.cons.inj same).1
      rw [Toml.readValue?.eq_6, read]
      · exact fun _ => unopened (by decide)
      · exact fun _ => unopened (by decide)
      · exact fun _ => unopened (by decide)
      · exact fun _ => unopened (by decide)
  | strings written =>
      rw [List.length_cons, List.length_append] at enough
      rw [List.cons_append, List.append_assoc, List.singleton_append, Toml.readValue?,
        if_pos (by decide), written.readItems? (by omega)]
      rfl

theorem WritesValue.skipSpaces_append {value : Value} (written : WritesValue value text)
    (rest : List Char) : skipSpaces (text ++ rest) = text ++ rest := by
  cases written with
  | string written =>
      rcases written.exists_eq_cons with ⟨others, rfl⟩
      exact skipSpaces_cons (by decide) _
  | natural number =>
      rcases Text.exists_toDigits_eq_cons number with ⟨digit, others, digits, isDigit⟩
      rw [digits]
      exact skipSpaces_cons (by simp [isSpace, ne_of_isDigit isDigit]) _
  | strings written => exact skipSpaces_cons (by decide) _

end Values

end Toml

end Precommit
