import Precommit.Pattern.Literal
import Precommit.Pattern.Parser

/-!
# Reading literal texts

An escaped text is read as its characters one after the other, and a choice between
escaped texts as an alternative of such sequences. Nothing in the texts can end the
group around them or begin anything else.
-/

namespace Precommit

namespace Pattern

namespace Expression

/-- A character that stands for itself. -/
def literal (character : Char) : Expression :=
  .set 0 (.single character)

/-- A text that stands for itself. -/
def literalText (text : List Char) : Expression :=
  .ofItems (text.map literal)

/-- One of several texts; without a choice it is the empty one. -/
def literalChoice (texts : List (List Char)) : Expression :=
  .group none (.ofBranches (if texts.isEmpty then [.empty] else texts.map literalText))

end Expression

namespace Reader

/-- The reader after the characters of a literal text. -/
def pushText (reader : Reader) (text : List Char) : Reader :=
  { reader with
    group := { reader.group with
      parts := (text.map Expression.literal).reverse ++ reader.group.parts } }

variable {reader : Reader}

theorem readFrom?_nil : reader.readFrom? [] = some reader := by
  rw [readFrom?]

theorem readFrom?_cons_of_next {character : Char} {rest : List Char} {next : Reader} {used : Nat}
    (read : reader.next? character rest = some (next, used)) :
    reader.readFrom? (character :: rest) = next.readFrom? (rest.drop used) := by
  rw [readFrom?, read]

theorem pushText_cons (character : Char) (text : List Char) :
    (reader.push (Expression.literal character)).pushText text =
      reader.pushText (character :: text) := by
  simp only [pushText, push, OpenGroup.push, List.map_cons, List.reverse_cons,
    List.append_assoc, List.singleton_append]

theorem pushSymbol?_plain (flags : reader.flags = {}) (character : Char) :
    reader.pushSymbol? (Symbol.plain character) =
      some (reader.push (Expression.literal character)) := by
  simp only [pushSymbol?, Symbol.plain, flags]
  rfl

theorem readEscape?_of_mem_metaCharacters {character : Char} (rest : List Char)
    (member : character ∈ metaCharacters) :
    Symbol.readEscape? false (character :: rest) = some (Symbol.plain character, 1) := by
  simp only [metaCharacters, List.mem_cons, List.not_mem_nil, or_false] at member
  rcases member with rfl | rfl | rfl | rfl | rfl | rfl | rfl | rfl | rfl | rfl | rfl | rfl |
    rfl | rfl | rfl | rfl | rfl | rfl <;> rfl

/-- A character after a backslash that takes its role away stands for itself. -/
theorem next?_escaped (flags : reader.flags = {}) {character : Char} (rest : List Char)
    (member : character ∈ metaCharacters) :
    reader.next? '\\' (character :: rest) =
      some (reader.push (Expression.literal character), 1) := by
  have symbol : Symbol.read? reader.flags.verbose '\\' (character :: rest) =
      some (Symbol.plain character, 1) := by
    rw [flags]
    exact readEscape?_of_mem_metaCharacters rest member
  simp only [next?, flags, Bool.false_and, Bool.false_eq_true, if_false]
  rw [flags] at symbol
  rw [symbol]
  simp only [Option.bind_eq_bind, Option.bind_some, pushSymbol?_plain flags]
  rfl

/-- A character without a role stands for itself. -/
theorem next?_plain (flags : reader.flags = {}) {character : Char} (rest : List Char)
    (notMeta : character ∉ metaCharacters) :
    reader.next? character rest = some (reader.push (Expression.literal character), 0) := by
  have ordinary : character ≠ '\\' := by
    rintro rfl
    exact notMeta (by decide)
  have symbol : Symbol.read? false character rest = some (Symbol.plain character, 0) := by
    simp only [Symbol.read?, beq_iff_eq, if_neg ordinary]
  simp only [next?, flags, Bool.false_and, Bool.false_eq_true, if_false]
  split
  case h_12 =>
    rw [symbol]
    simp only [Option.bind_eq_bind, Option.bind_some, pushSymbol?_plain flags]
    rfl
  all_goals exact absurd (by decide) notMeta

/-- An escaped text is read as its characters. -/
theorem readFrom?_escape (flags : reader.flags = {}) (text rest : List Char) :
    reader.readFrom? (escape text ++ rest) = (reader.pushText text).readFrom? rest := by
  induction text generalizing reader with
  | nil => rfl
  | cons character text ih =>
      have step : ∀ tail, reader.readFrom? (escape [character] ++ tail) =
          (reader.push (Expression.literal character)).readFrom? tail := by
        intro tail
        rw [escape, List.flatMap_singleton]
        split
        · rename_i member
          rw [List.contains_iff_mem] at member
          exact readFrom?_cons_of_next (next?_escaped flags tail member)
        · rename_i notMeta
          rw [List.contains_iff_mem] at notMeta
          exact readFrom?_cons_of_next (next?_plain flags tail notMeta)
      have split : escape (character :: text) = escape [character] ++ escape text := by
        simp only [escape, List.flatMap_cons, List.flatMap_nil, List.append_nil]
      have flags' : (reader.push (Expression.literal character)).flags = {} := flags
      rw [split, List.append_assoc, step, ih flags', pushText_cons]

theorem next?_bar (flags : reader.flags = {}) (rest : List Char) :
    reader.next? '|' rest = some (reader.branch, 0) := by
  simp only [next?, flags]
  rfl

theorem next?_openGroup (flags : reader.flags = {}) (rest : List Char) :
    reader.next? '(' ('?' :: ':' :: rest) = some (reader.openGroup none {}, 2) := by
  simp only [next?, readOpening?, readFlags?, flags]
  rfl

theorem next?_closeGroup (flags : reader.flags = {}) {group : OpenGroup}
    {around : List OpenGroup} (within : reader.around = group :: around) (rest : List Char) :
    reader.next? ')' rest =
      some
        ({ reader with
            flags := reader.group.outer
            group := group.push (.group reader.group.index reader.group.content)
            around := around }, 0) := by
  simp only [next?, flags, closeGroup?, within]
  rfl

/-- Escaped texts with bars between them are read as branches of the group. -/
theorem readFrom?_bars (flags : reader.flags = {}) (fresh : reader.group.parts = [])
    (first : List Char) (texts : List (List Char)) (rest : List Char) :
    ∃ group : OpenGroup,
      reader.readFrom? (List.intercalate ['|'] ((first :: texts).map escape) ++ rest) =
          ({ reader with group := group } : Reader).readFrom? rest ∧
        group.outer = reader.group.outer ∧ group.index = reader.group.index ∧
        group.content = .ofBranches
          (reader.group.branches.reverse ++ (first :: texts).map Expression.literalText) := by
  induction texts generalizing first reader with
  | nil =>
      refine ⟨(reader.pushText first).group, ?_, rfl, rfl, ?_⟩
      · rw [List.map_singleton, List.intercalate_singleton, readFrom?_escape flags]
        rfl
      · simp only [OpenGroup.content, OpenGroup.branch, pushText, fresh, List.append_nil,
          List.reverse_reverse, List.reverse_cons]
        rfl
  | cons second texts ih =>
      have bar : List.intercalate ['|'] ((first :: second :: texts).map escape) ++ rest =
          escape first ++
            '|' :: (List.intercalate ['|'] ((second :: texts).map escape) ++ rest) := by
        simp only [List.map_cons, List.intercalate_cons_cons, List.append_assoc,
          List.cons_append, List.nil_append]
      have flags' : (reader.pushText first).flags = {} := flags
      have read := readFrom?_cons_of_next (next?_bar flags'
        (List.intercalate ['|'] ((second :: texts).map escape) ++ rest))
      rcases @ih (reader.pushText first).branch flags rfl second with
        ⟨group, found, outer, index, content⟩
      refine ⟨group, ?_, outer, index, ?_⟩
      · rw [bar, readFrom?_escape flags, read, List.drop_zero, found]
        rfl
      · rw [content]
        simp only [branch, OpenGroup.branch, pushText, fresh, List.append_nil,
          List.reverse_reverse, List.reverse_cons, List.append_assoc, List.singleton_append]
        rfl

/-- A group of escaped texts is read as the choice between them. -/
theorem readFrom?_choice (flags : reader.flags = {}) (texts : List (List Char))
    (rest : List Char) :
    reader.readFrom?
        ('(' :: '?' :: ':' :: (List.intercalate ['|'] (texts.map escape) ++ ')' :: rest)) =
      (reader.push (Expression.literalChoice texts)).readFrom? rest := by
  rw [readFrom?_cons_of_next (next?_openGroup flags _)]
  have inside : (reader.openGroup none {}).flags = {} := rfl
  cases texts with
  | nil =>
      have close := readFrom?_cons_of_next (next?_closeGroup inside rfl rest)
      rw [List.map_nil, List.intercalate_nil]
      simp only [List.drop_succ_cons, List.drop_zero, List.nil_append, close]
      rfl
  | cons first texts =>
      rcases @readFrom?_bars (reader.openGroup none {}) inside rfl first texts (')' :: rest) with
        ⟨group, found, outer, index, content⟩
      have inside' : ({ reader.openGroup none {} with group := group } : Reader).flags = {} := rfl
      have close := readFrom?_cons_of_next (next?_closeGroup inside' rfl rest)
      simp only [List.drop_succ_cons, List.drop_zero, found, close, outer, index, content]
      rfl


end Reader

end Pattern

end Precommit
