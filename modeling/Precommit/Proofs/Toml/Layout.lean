import Precommit.Toml.Text

/-!
# The layout of documents

The parts of a line may have spaces between them, and there may be lines that say nothing:
blank ones and comments. The readers skip all of this, whatever comes after it.
-/

namespace Precommit

namespace Toml

/-- Spaces and tabs. -/
def IsSpaces (text : List Char) : Prop :=
  text.all isSpace = true

instance (text : List Char) : Decidable (IsSpaces text) :=
  inferInstanceAs (Decidable (_ = true))

/-- The end of a line. -/
inductive IsLineEnd : List Char → Prop
  | lineFeed : IsLineEnd ['\n']
  | pair : IsLineEnd ['\r', '\n']

/-- A comment up to the end of its line, or nothing. -/
inductive IsComment : List Char → Prop
  | none : IsComment []
  | some {text : List Char} (printed : text.all isTextCharacter = true) : IsComment ('#' :: text)

/-- The part of a line that says nothing: spaces, perhaps a comment, and the line end. -/
inductive IsLineRest : List Char → Prop
  | mk {spaces comment lineEnd : List Char} (spaced : IsSpaces spaces)
      (commented : IsComment comment) (ended : IsLineEnd lineEnd) :
      IsLineRest (spaces ++ (comment ++ lineEnd))

/-- Whole lines that say nothing, and the spaces at the beginning of the next line. -/
inductive IsFiller : List Char → Prop
  | spaces {text : List Char} (spaced : IsSpaces text) : IsFiller text
  | line {line rest : List Char} (blank : IsLineRest line) (filler : IsFiller rest) :
      IsFiller (line ++ rest)

theorem IsSpaces.nil : IsSpaces [] :=
  rfl

theorem IsFiller.nil : IsFiller [] :=
  .spaces .nil

section Readers

variable {character : Char}

theorem skipBlankLines_cons (visible : character ∉ [' ', '\t', '\n', '\r', '#'])
    (rest : List Char) : skipBlankLines (character :: rest) = character :: rest := by
  simp only [List.mem_cons, List.not_mem_nil, or_false, not_or] at visible
  rcases visible with ⟨space, tab, lineFeed, carriageReturn, comment⟩
  apply skipBlankLines.eq_6
  · intro rest' same
    exact space (List.cons.inj same).1
  · intro rest' same
    exact tab (List.cons.inj same).1
  · intro rest' same
    exact lineFeed (List.cons.inj same).1
  · intro rest' same
    exact carriageReturn (List.cons.inj same).1
  · intro rest' same
    exact comment (List.cons.inj same).1

theorem isSpace_eq_false (visible : character ∉ [' ', '\t', '\n', '\r', '#']) :
    isSpace character = false := by
  simp only [List.mem_cons, List.not_mem_nil, or_false, not_or] at visible
  simp [isSpace, visible.1, visible.2.1]

theorem skipSpaces_cons (visible : isSpace character = false) (rest : List Char) :
    skipSpaces (character :: rest) = character :: rest := by
  rw [skipSpaces, List.dropWhile_cons_of_neg]
  rw [visible]
  decide

variable {text : List Char}

theorem IsSpaces.skipSpaces_append (spaced : IsSpaces text) (rest : List Char) :
    skipSpaces (text ++ rest) = skipSpaces rest :=
  List.dropWhile_append_of_pos (List.all_eq_true.1 spaced)

theorem IsSpaces.skipBlankLines_append (spaced : IsSpaces text) (rest : List Char) :
    skipBlankLines (text ++ rest) = skipBlankLines rest := by
  induction text with
  | nil => rfl
  | cons character text ih =>
      rw [IsSpaces, List.all_cons, Bool.and_eq_true] at spaced
      have skipped := ih spaced.2
      have space := spaced.1
      rw [isSpace, Bool.or_eq_true, beq_iff_eq, beq_iff_eq] at space
      rcases space with rfl | rfl
      · rw [List.cons_append, skipBlankLines, skipped]
      · rw [List.cons_append, skipBlankLines, skipped]

theorem IsLineEnd.skipSpaces_append {lineEnd : List Char} (ended : IsLineEnd lineEnd)
    (rest : List Char) : skipSpaces (lineEnd ++ rest) = lineEnd ++ rest := by
  cases ended with
  | lineFeed => exact skipSpaces_cons (by decide) rest
  | pair => exact skipSpaces_cons (by decide) _

/-- No line end belongs to a comment. -/
theorem IsLineEnd.dropWhile_isTextCharacter {lineEnd : List Char} (ended : IsLineEnd lineEnd)
    (rest : List Char) :
    (lineEnd ++ rest).dropWhile isTextCharacter = lineEnd ++ rest := by
  cases ended with
  | lineFeed => exact List.dropWhile_cons_of_neg (by decide)
  | pair => exact List.dropWhile_cons_of_neg (by decide)

theorem IsLineEnd.skipBlankLines_append {lineEnd : List Char} (ended : IsLineEnd lineEnd)
    (rest : List Char) : skipBlankLines (lineEnd ++ rest) = skipBlankLines rest := by
  cases ended with
  | lineFeed => rw [List.singleton_append, skipBlankLines]
  | pair => rw [List.cons_append, List.singleton_append, skipBlankLines]

/-- What comes first after the spaces of a rest of a line ends the line or begins a comment. -/
theorem IsLineRest.exists_skipSpaces (blank : IsLineRest text) (rest : List Char) :
    ∃ comment lineEnd, IsComment comment ∧ IsLineEnd lineEnd ∧
      skipSpaces (text ++ rest) = comment ++ (lineEnd ++ rest) := by
  rcases blank with ⟨spaced, commented, ended⟩
  refine ⟨_, _, commented, ended, ?_⟩
  rw [List.append_assoc, spaced.skipSpaces_append, List.append_assoc]
  cases commented with
  | none => exact ended.skipSpaces_append rest
  | some printed => exact skipSpaces_cons (by decide) _

theorem IsLineRest.exists_skipSpaces_eq_cons (blank : IsLineRest text) (rest : List Char) :
    ∃ mark others, skipSpaces (text ++ rest) = mark :: others ∧ mark ∈ ['#', '\n', '\r'] := by
  rcases blank.exists_skipSpaces rest with ⟨comment, lineEnd, commented, ended, skipped⟩
  rw [skipped]
  cases commented with
  | none =>
      cases ended with
      | lineFeed => exact ⟨_, _, rfl, by decide⟩
      | pair => exact ⟨_, _, rfl, by decide⟩
  | some => exact ⟨_, _, rfl, by decide⟩

theorem IsLineRest.head?_append_ne (blank : IsLineRest text) {rest : List Char} :
    (text ++ rest).head? ≠ some '"' := by
  intro head
  rcases List.head?_eq_some_iff.1 head with ⟨quoted, same⟩
  rcases blank.exists_skipSpaces_eq_cons rest with ⟨mark, others, skipped, member⟩
  rw [same, skipSpaces_cons (by decide)] at skipped
  rw [← (List.cons.inj skipped).1] at member
  exact absurd member (by decide)

theorem IsLineRest.endLine?_append (blank : IsLineRest text) (rest : List Char) :
    endLine? (text ++ rest) = some rest := by
  rcases blank.exists_skipSpaces rest with ⟨comment, lineEnd, commented, ended, skipped⟩
  have afterComment : skipComment (comment ++ (lineEnd ++ rest)) = lineEnd ++ rest := by
    cases commented with
    | none =>
        cases ended with
        | lineFeed => rfl
        | pair => rfl
    | some printed =>
        rw [List.cons_append, skipComment, List.dropWhile_append_of_pos (List.all_eq_true.1 printed),
          ended.dropWhile_isTextCharacter]
  rw [endLine?, skipped, afterComment]
  cases ended with
  | lineFeed => rfl
  | pair => rfl

theorem IsLineRest.skipBlankLines_append (blank : IsLineRest text) (rest : List Char) :
    skipBlankLines (text ++ rest) = skipBlankLines rest := by
  rcases blank with ⟨spaced, commented, ended⟩
  rw [List.append_assoc, spaced.skipBlankLines_append, List.append_assoc]
  cases commented with
  | none => exact ended.skipBlankLines_append rest
  | some printed =>
      rw [List.cons_append, skipBlankLines, List.dropWhile_append_of_pos (List.all_eq_true.1 printed),
        ended.dropWhile_isTextCharacter, ended.skipBlankLines_append]

theorem IsFiller.skipBlankLines_append (filler : IsFiller text) (rest : List Char) :
    skipBlankLines (text ++ rest) = skipBlankLines rest := by
  induction filler with
  | spaces spaced => exact spaced.skipBlankLines_append rest
  | line blank _ ih => rw [List.append_assoc, blank.skipBlankLines_append, ih]

theorem IsFiller.skipBlankLines_append_cons (filler : IsFiller text)
    (visible : character ∉ [' ', '\t', '\n', '\r', '#']) (rest : List Char) :
    skipBlankLines (text ++ character :: rest) = character :: rest := by
  rw [filler.skipBlankLines_append, skipBlankLines_cons visible]

theorem IsFiller.skipBlankLines (filler : IsFiller text) : skipBlankLines text = [] := by
  have skipped := filler.skipBlankLines_append []
  rw [List.append_nil] at skipped
  rw [skipped]
  simp [Toml.skipBlankLines]

theorem IsFiller.head?_ne (filler : IsFiller text)
    (visible : character ∉ [' ', '\t', '\n', '\r', '#']) : text.head? ≠ some character := by
  intro head
  rcases List.head?_eq_some_iff.1 head with ⟨others, same⟩
  have skipped := filler.skipBlankLines
  rw [same, skipBlankLines_cons visible] at skipped
  cases skipped

/-- A text that begins with a filler does not begin with a visible character. -/
theorem IsFiller.head?_append_cons_ne (filler : IsFiller text)
    (visible : character ∉ [' ', '\t', '\n', '\r', '#']) {other : Char}
    (visible' : other ∉ [' ', '\t', '\n', '\r', '#']) (different : character ≠ other)
    (rest : List Char) : (text ++ character :: rest).head? ≠ some other := by
  intro head
  rcases List.head?_eq_some_iff.1 head with ⟨others, same⟩
  have skipped := filler.skipBlankLines_append_cons visible rest
  rw [same, skipBlankLines_cons visible'] at skipped
  exact different (List.cons.inj skipped).1.symm

end Readers

end Toml

end Precommit
