import Mathlib.Data.List.Basic
import Precommit.Text.Line

/-!
# Line ends of any kind

A line ends at a carriage return with the line feed after it, at a carriage return alone
or at a line feed alone. A text has exactly one reading in these terms (`BreaksInto`), and
it is the one that comes of replacing first the pairs and then the carriage returns that
are left, and of splitting at line feeds.
-/

namespace Precommit

namespace Text

/-- No character of the line is part of a line end. -/
def IsUnbroken (line : Line) : Prop :=
  '\r' ∉ line ∧ '\n' ∉ line

/-- The text read from left to right has the given lines, whatever ends each of them. -/
inductive BreaksInto : List Char → List Line → Prop
  | last {line : Line} (unbroken : IsUnbroken line) : BreaksInto line [line]
  /-- The line ends at a carriage return and the line feed after it. -/
  | pair {line : Line} {rest : List Char} {lines : List Line} (unbroken : IsUnbroken line)
      (later : BreaksInto rest lines) :
      BreaksInto (line ++ '\r' :: '\n' :: rest) (line :: lines)
  /-- The line ends at a carriage return that no line feed follows. -/
  | carriageReturn {line : Line} {rest : List Char} {lines : List Line} (unbroken : IsUnbroken line)
      (alone : rest.head? ≠ some '\n') (later : BreaksInto rest lines) :
      BreaksInto (line ++ '\r' :: rest) (line :: lines)
  /-- The line ends at a line feed, which is not the second half of a pair. -/
  | lineFeed {line : Line} {rest : List Char} {lines : List Line} (unbroken : IsUnbroken line)
      (later : BreaksInto rest lines) :
      BreaksInto (line ++ '\n' :: rest) (line :: lines)

/-- The number of carriage returns with a line feed after them. -/
def pairCount (text : List Char) : Nat :=
  (text.zip text.tail).count ('\r', '\n')

section Normalization

theorem joinBreaks_append {line : Line} (noReturn : '\r' ∉ line) (rest : List Char) :
    joinBreaks (line ++ rest) = line ++ joinBreaks rest := by
  induction line with
  | nil => rfl
  | cons character line ih =>
      rw [List.mem_cons, not_or] at noReturn
      have ordinary : character ≠ '\r' := Ne.symm noReturn.1
      rw [List.cons_append, joinBreaks, ih noReturn.2, List.cons_append]
      intro rest' isReturn
      exact absurd isReturn ordinary

theorem joinBreaks_of_not_mem {text : List Char} (noReturn : '\r' ∉ text) :
    joinBreaks text = text := by
  have joined := joinBreaks_append noReturn []
  rwa [List.append_nil, joinBreaks, List.append_nil] at joined

theorem feedReturns_of_not_mem {text : List Char} (noReturn : '\r' ∉ text) :
    feedReturns text = text := by
  rw [feedReturns, List.map_congr_left (g := id), List.map_id]
  intro character member
  have ordinary : character ≠ '\r' := by
    rintro rfl
    exact noReturn member
  simp [ordinary]

theorem not_mem_feedReturns (text : List Char) : '\r' ∉ feedReturns text := by
  intro member
  rcases List.mem_map.1 member with ⟨character, _, image⟩
  split at image
  · cases image
  · rename_i ordinary
    exact ordinary (by simp [image])

/-- The two replacements do nothing to a text without carriage returns. -/
theorem universalBreaks_eq (text : List Char) :
    universalBreaks text = feedReturns (joinBreaks text) := by
  unfold universalBreaks
  split
  · rfl
  · rename_i noReturn
    rw [List.contains_iff_mem] at noReturn
    rw [joinBreaks_of_not_mem noReturn, feedReturns_of_not_mem noReturn]

theorem not_mem_universalBreaks (text : List Char) : '\r' ∉ universalBreaks text := by
  rw [universalBreaks_eq]
  exact not_mem_feedReturns _

theorem universalBreaks_universalBreaks (text : List Char) :
    universalBreaks (universalBreaks text) = universalBreaks text := by
  rw [universalBreaks_eq (universalBreaks text),
    joinBreaks_of_not_mem (not_mem_universalBreaks text),
    feedReturns_of_not_mem (not_mem_universalBreaks text)]

theorem universalBreaks_append {line : Line} (noReturn : '\r' ∉ line) (rest : List Char) :
    universalBreaks (line ++ rest) = line ++ universalBreaks rest := by
  rw [universalBreaks_eq, universalBreaks_eq, joinBreaks_append noReturn, feedReturns,
    List.map_append, ← feedReturns, feedReturns_of_not_mem noReturn]
  rfl

theorem universalBreaks_pair (rest : List Char) :
    universalBreaks ('\r' :: '\n' :: rest) = '\n' :: universalBreaks rest := by
  rw [universalBreaks_eq, universalBreaks_eq]
  rfl

theorem universalBreaks_return {rest : List Char} (alone : rest.head? ≠ some '\n') :
    universalBreaks ('\r' :: rest) = '\n' :: universalBreaks rest := by
  rw [universalBreaks_eq, universalBreaks_eq, joinBreaks]
  · rfl
  · rintro rest' _ rfl
    exact alone rfl

theorem universalBreaks_feed (rest : List Char) :
    universalBreaks ('\n' :: rest) = '\n' :: universalBreaks rest :=
  @universalBreaks_append ['\n'] (by decide) rest

theorem lines_append_feed {line : Line} (noFeed : '\n' ∉ line) (rest : List Char) :
    lines (line ++ '\n' :: rest) = line :: lines rest := by
  rw [lines, lines, split_eq_splitOn, split_eq_splitOn,
    List.splitOn_append_cons_self_of_not_mem noFeed]

theorem lines_of_not_mem {line : Line} (noFeed : '\n' ∉ line) : lines line = [line] := by
  rw [lines, split_eq_splitOn, List.splitOn_eq_singleton noFeed]

/-- The lines of a text with line feeds between them are the text. -/
theorem intercalate_lines (text : List Char) : List.intercalate ['\n'] (lines text) = text := by
  rw [lines, split_eq_splitOn, List.intercalate_splitOn]

end Normalization

section Count

theorem pairCount_cons (character : Char) (rest : List Char) :
    pairCount (character :: rest) =
      pairCount rest + if character = '\r' ∧ rest.head? = some '\n' then 1 else 0 := by
  cases rest with
  | nil => simp [pairCount]
  | cons next rest =>
      simp only [pairCount, List.tail_cons, List.zip_cons_cons, List.count_cons, List.head?_cons,
        Option.some_inj, beq_iff_eq, Prod.mk.injEq]

theorem pairCount_append {line : Line} (noReturn : '\r' ∉ line) (rest : List Char) :
    pairCount (line ++ rest) = pairCount rest := by
  induction line with
  | nil => rfl
  | cons character line ih =>
      rw [List.mem_cons, not_or] at noReturn
      rw [List.cons_append, pairCount_cons, ih noReturn.2, if_neg, Nat.add_zero]
      rintro ⟨rfl, _⟩
      exact noReturn.1 rfl

end Count

theorem IsUnbroken.count_append {line : Line} (unbroken : IsUnbroken line) {character : Char}
    (isBreak : character = '\r' ∨ character = '\n') (rest : List Char) :
    (line ++ rest).count character = rest.count character := by
  have absent : character ∉ line := by
    rcases isBreak with rfl | rfl
    · exact unbroken.1
    · exact unbroken.2
  rw [List.count_append, List.count_eq_zero_of_not_mem absent, Nat.zero_add]

theorem IsUnbroken.cons {character : Char} {line : Line} (notReturn : character ≠ '\r')
    (notFeed : character ≠ '\n') (unbroken : IsUnbroken line) :
    IsUnbroken (character :: line) :=
  ⟨List.not_mem_cons_of_ne_of_not_mem notReturn.symm unbroken.1,
    List.not_mem_cons_of_ne_of_not_mem notFeed.symm unbroken.2⟩

namespace BreaksInto

variable {text : List Char} {lines : List Line}

theorem eq_lines (breaks : BreaksInto text lines) :
    lines = Text.lines (universalBreaks text) := by
  induction breaks with
  | last unbroken =>
      have kept := universalBreaks_append unbroken.1 []
      rw [List.append_nil] at kept
      rw [kept, universalBreaks_eq, joinBreaks, feedReturns, List.map_nil, List.append_nil,
        lines_of_not_mem unbroken.2]
  | pair unbroken _ ih =>
      rw [universalBreaks_append unbroken.1, universalBreaks_pair,
        lines_append_feed unbroken.2, ← ih]
  | carriageReturn unbroken alone _ ih =>
      rw [universalBreaks_append unbroken.1, universalBreaks_return alone,
        lines_append_feed unbroken.2, ← ih]
  | lineFeed unbroken _ ih =>
      rw [universalBreaks_append unbroken.1, universalBreaks_feed,
        lines_append_feed unbroken.2, ← ih]

theorem isUnbroken_of_mem (breaks : BreaksInto text lines) {line : Line}
    (member : line ∈ lines) : IsUnbroken line := by
  induction breaks with
  | last unbroken =>
      rw [List.mem_singleton.1 member]
      exact unbroken
  | pair unbroken _ ih | carriageReturn unbroken _ _ ih | lineFeed unbroken _ ih =>
      rcases List.mem_cons.1 member with rfl | member
      · exact unbroken
      · exact ih member

/-- Every line but the last has one line end, and a pair is a single one. -/
theorem length_add_pairCount (breaks : BreaksInto text lines) :
    lines.length + pairCount text = 1 + text.count '\n' + text.count '\r' := by
  induction breaks with
  | last unbroken =>
      have noPair := pairCount_append unbroken.1 []
      rw [List.append_nil] at noPair
      rw [noPair, List.count_eq_zero_of_not_mem unbroken.1,
        List.count_eq_zero_of_not_mem unbroken.2]
      rfl
  | pair unbroken _ ih =>
      rw [pairCount_append unbroken.1, unbroken.count_append (.inl rfl),
        unbroken.count_append (.inr rfl), pairCount_cons, pairCount_cons]
      simp only [List.length_cons, List.head?_cons, List.count_cons]
      grind
  | carriageReturn unbroken alone _ ih =>
      rw [pairCount_append unbroken.1, unbroken.count_append (.inl rfl),
        unbroken.count_append (.inr rfl), pairCount_cons]
      simp only [List.length_cons, List.count_cons]
      grind
  | lineFeed unbroken _ ih =>
      rw [pairCount_append unbroken.1, unbroken.count_append (.inl rfl),
        unbroken.count_append (.inr rfl), pairCount_cons]
      simp only [List.length_cons, List.count_cons]
      grind

/-- A further character in front belongs to the first line. -/
theorem cons {character : Char} (breaks : BreaksInto text lines) (notReturn : character ≠ '\r')
    (notFeed : character ≠ '\n') : ∃ lines', BreaksInto (character :: text) lines' := by
  cases breaks with
  | last unbroken => exact ⟨_, .last (unbroken.cons notReturn notFeed)⟩
  | pair unbroken later => exact ⟨_, .pair (unbroken.cons notReturn notFeed) later⟩
  | carriageReturn unbroken alone later =>
      exact ⟨_, .carriageReturn (unbroken.cons notReturn notFeed) alone later⟩
  | lineFeed unbroken later => exact ⟨_, .lineFeed (unbroken.cons notReturn notFeed) later⟩

end BreaksInto

/-- Lines with line feeds between them are read as they are. -/
theorem breaksInto_intercalate {lines : List Line} (unbroken : ∀ line ∈ lines, IsUnbroken line)
    (nonempty : lines ≠ []) : BreaksInto (List.intercalate ['\n'] lines) lines := by
  induction lines with
  | nil => exact absurd rfl nonempty
  | cons line rest ih =>
      rw [List.forall_mem_cons] at unbroken
      cases rest with
      | nil => simpa using BreaksInto.last unbroken.1
      | cons next rest =>
          have later := BreaksInto.lineFeed unbroken.1 (ih unbroken.2 (List.cons_ne_nil _ _))
          simpa using later

/-- Every text can be read into lines. -/
theorem exists_breaksInto (text : List Char) : ∃ lines, BreaksInto text lines := by
  have empty : IsUnbroken [] := ⟨List.not_mem_nil, List.not_mem_nil⟩
  induction text using joinBreaks.induct with
  | case1 => exact ⟨[[]], .last empty⟩
  | case2 rest ih =>
      rcases ih with ⟨lines, later⟩
      exact ⟨[] :: lines, .pair empty later⟩
  | case3 character rest noPair ih =>
      rcases ih with ⟨lines, later⟩
      by_cases isReturn : character = '\r'
      · subst isReturn
        have alone : rest.head? ≠ some '\n' := by
          intro next
          rcases List.head?_eq_some_iff.1 next with ⟨rest', rfl⟩
          exact noPair rest' rfl rfl
        exact ⟨[] :: lines, .carriageReturn empty alone later⟩
      · by_cases isFeed : character = '\n'
        · subst isFeed
          exact ⟨[] :: lines, .lineFeed empty later⟩
        · exact later.cons isReturn isFeed

/-- A text has one reading only, the lines of its normal form. -/
theorem breaksInto_iff {text : List Char} {lines : List Line} :
    BreaksInto text lines ↔ lines = Text.lines (universalBreaks text) := by
  constructor
  · exact BreaksInto.eq_lines
  · rintro rfl
    rcases exists_breaksInto text with ⟨lines, breaks⟩
    rw [← breaks.eq_lines]
    exact breaks

end Text

end Precommit
