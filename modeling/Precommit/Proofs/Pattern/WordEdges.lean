import Precommit.Proofs.Pattern.Language
import Precommit.Proofs.Text.Words

/-!
# Patterns between word edges

Beside a word character, a word edge says that there is none on the other side. So a pattern
that begins with an edge and a word character is looked for after characters that are none of a
word, and a literal word between two edges is looked for among the words of the line
(`isMatch_wordPattern_iff`).
-/

namespace Precommit

open Unicode

namespace Assertion

variable {before after : List Char}

theorem holds_edge_iff_of_head? (starts : after.head?.any isWord = true) :
    (wordEdge .edge .word).holds (Place.between before after) = true ↔
      before.getLast?.any isWord = false := by
  have next : after.head?.any CharSet.word.contains = true := starts
  change (before.getLast?.any isWord != after.head?.any CharSet.word.contains) = true ↔ _
  rw [next]
  cases before.getLast?.any isWord <;> decide

theorem holds_edge_iff_of_getLast? (ends : before.getLast?.any isWord = true) :
    (wordEdge .edge .word).holds (Place.between before after) = true ↔
      after.head?.any isWord = false := by
  have previous : before.getLast?.any CharSet.word.contains = true := ends
  change (before.getLast?.any CharSet.word.contains != after.head?.any isWord) = true ↔ _
  rw [previous]
  cases after.head?.any isWord <;> decide

end Assertion

namespace Pattern

variable {patterns : List Pattern} {language : Language Char} {word line : List Char}

/-- The place between a word character and something else. -/
def edge : Pattern :=
  .assertion (.wordEdge .edge .word)

theorem describesEach_singles (characters : List Char) :
    DescribesEach (characters.map fun character => .char (.single character)) {characters} := by
  intro before stretch after
  exact acceptsEach_singles_iff

/-- After an edge, what begins with a word character begins a word. -/
theorem isMatch_edge_cons_iff (each : DescribesEach patterns language)
    (starts : ∀ stretch ∈ language, stretch.head?.any isWord = true) (line : List Char) :
    (sequenceAll (edge :: patterns)).isMatch line = true ↔
      ∃ before stretch after, line = before ++ stretch ++ after ∧
        before.getLast?.any isWord = false ∧ stretch ∈ language := by
  have accepted (before stretch after : List Char) :
      Accepts (sequenceAll (edge :: patterns)) before stretch after ↔
        before.getLast?.any isWord = false ∧ stretch ∈ language := by
    rw [accepts_sequenceAll_iff, edge, acceptsEach_assertion_cons_iff, each before stretch after]
    refine and_congr_left fun member => ?_
    apply Assertion.holds_edge_iff_of_head?
    have first := starts stretch member
    cases stretch with
    | nil => cases first
    | cons character rest => exact first
  rw [isMatch_iff]
  simp only [Matches, accepted]

/-- After an edge, a literal text that begins with a word character begins a word. -/
theorem isMatch_edge_text_iff (starts : word.head?.any isWord = true)
    (each : DescribesEach patterns language) (line : List Char) :
    (sequenceAll (edge :: ((word.map fun character => .char (.single character)) ++
        patterns))).isMatch line = true ↔
      ∃ before stretch after, line = before ++ word ++ stretch ++ after ∧
        before.getLast?.any isWord = false ∧ stretch ∈ language := by
  have begins : ∀ stretch ∈ {word} * language, stretch.head?.any isWord = true := by
    intro stretch member
    rcases mem_mul_iff_split.1 member with ⟨text, rest, rfl, same, _⟩
    obtain rfl := Set.mem_singleton_iff.1 same
    cases text with
    | nil => cases starts
    | cons character text => exact starts
  rw [isMatch_edge_cons_iff ((describesEach_singles word).append each) begins]
  simp only [mem_mul_iff_split]
  constructor
  · rintro ⟨before, _, after, rfl, noWord, text, stretch, rfl, same, member⟩
    obtain rfl := Set.mem_singleton_iff.1 same
    exact ⟨before, stretch, after, by simp, noWord, member⟩
  · rintro ⟨before, stretch, after, rfl, noWord, member⟩
    exact ⟨before, word ++ stretch, after, by simp, noWord, word, stretch, rfl, rfl, member⟩

/-- A literal text between edges. -/
def wordPattern (word : List Char) : Pattern :=
  sequenceAll (edge :: (word.map fun character => .char (.single character)) ++ [edge])

theorem accepts_wordPattern_iff {before stretch after : List Char} (nonempty : word ≠ [])
    (isRun : ∀ character ∈ word, isWord character = true) :
    Accepts (wordPattern word) before stretch after ↔
      stretch = word ∧ before.getLast?.any isWord = false ∧ after.head?.any isWord = false := by
  have first : (word ++ after).head?.any isWord = true := by
    rw [List.head?_append_of_ne_nil _ nonempty, List.head?_eq_some_head nonempty]
    exact isRun _ (List.head_mem nonempty)
  have last : (before ++ word).getLast?.any isWord = true := by
    rw [List.getLast?_append_of_ne_nil _ nonempty, List.getLast?_eq_some_getLast nonempty]
    exact isRun _ (List.getLast_mem nonempty)
  rw [wordPattern, accepts_sequenceAll_iff, List.cons_append, edge,
    acceptsEach_assertion_cons_iff, acceptsEach_append_iff]
  simp only [acceptsEach_singles_iff, acceptsEach_singleton_iff, accepts_assertion_iff]
  constructor
  · rintro ⟨starts, _, _, rfl, rfl, ends, rfl⟩
    rw [List.append_nil] at starts
    exact ⟨List.append_nil _, (Assertion.holds_edge_iff_of_head? first).1 starts,
      (Assertion.holds_edge_iff_of_getLast? last).1 ends⟩
  · rintro ⟨rfl, starts, ends⟩
    exact ⟨(Assertion.holds_edge_iff_of_head? first).2 starts, stretch, [],
      (List.append_nil _).symm, rfl, (Assertion.holds_edge_iff_of_getLast? last).2 ends, rfl⟩

/-- A literal word between edges is looked for among the words of the line. -/
theorem isMatch_wordPattern_iff (nonempty : word ≠ [])
    (isRun : ∀ character ∈ word, isWord character = true) :
    (wordPattern word).isMatch line = true ↔ word ∈ Line.words line := by
  rw [isMatch_iff, Line.mem_words_iff]
  simp only [Matches, accepts_wordPattern_iff nonempty isRun]
  constructor
  · rintro ⟨before, _, after, rfl, rfl, starts, ends⟩
    exact ⟨nonempty, isRun, before, after, rfl, starts, ends⟩
  · rintro ⟨_, _, before, after, rfl, starts, ends⟩
    exact ⟨before, word, after, rfl, rfl, starts, ends⟩

end Pattern

end Precommit
