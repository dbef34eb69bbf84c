import Mathlib.Data.List.Basic
import Precommit.Text.Line
import Precommit.Unicode.Word

/-!
# The words of a line

The words of a line are what is left of it between the characters that are none of a word. Each
is a run of word characters that cannot be made longer, and every such run is one of them
(`mem_words_iff`).
-/

namespace Precommit

namespace Line

open Unicode

variable {run before after text : List Char} {separator : Char}

/-- The runs of word characters of a line, from left to right. -/
def words (line : Line) : List (List Char) :=
  (line.splitOnP fun character => !isWord character).filter (!·.isEmpty)

/-- The text is a run of word characters of the line that cannot be made longer. -/
def HasWord (line : Line) (text : List Char) : Prop :=
  text ≠ [] ∧ (∀ character ∈ text, isWord character = true) ∧
    ∃ before after, line = before ++ text ++ after ∧
      before.getLast?.any isWord = false ∧ after.head?.any isWord = false

/-! ### Lines without a separator -/

theorem eq_nil_of_getLast? (isRun : ∀ character ∈ run, isWord character = true)
    (ends : run.getLast?.any isWord = false) : run = [] := by
  cases last : run.getLast? with
  | none => exact List.getLast?_eq_none_iff.1 last
  | some character =>
      rw [last, Option.any_some, isRun character (List.mem_of_getLast? last)] at ends
      cases ends

theorem eq_nil_of_head? (isRun : ∀ character ∈ run, isWord character = true)
    (ends : run.head?.any isWord = false) : run = [] := by
  cases first : run.head? with
  | none => exact List.head?_eq_none_iff.1 first
  | some character =>
      rw [first, Option.any_some, isRun character (List.mem_of_mem_head? first)] at ends
      cases ends

theorem words_run (isRun : ∀ character ∈ run, isWord character = true) :
    words run = [run].filter (!·.isEmpty) := by
  rw [words, List.splitOnP_eq_singleton]
  intro character member
  rw [isRun character member]
  rfl

theorem hasWord_run_iff (isRun : ∀ character ∈ run, isWord character = true) :
    HasWord run text ↔ text ≠ [] ∧ text = run := by
  constructor
  · rintro ⟨nonempty, _, before, after, rfl, left, right⟩
    simp only [List.forall_mem_append] at isRun
    obtain rfl := eq_nil_of_getLast? isRun.1.1 left
    obtain rfl := eq_nil_of_head? isRun.2 right
    simpa using nonempty
  · rintro ⟨nonempty, rfl⟩
    exact ⟨nonempty, isRun, [], [], by simp, rfl, rfl⟩

/-! ### Lines with a separator -/

theorem words_append_cons (separates : isWord separator = false) (before after : Line) :
    words (before ++ separator :: after) = words before ++ words after := by
  rw [words, List.splitOnP_append_cons _ _ (by simpa using separates), List.filter_append]
  rfl

theorem HasWord.append_cons (word : HasWord before text) (separates : isWord separator = false)
    (after : Line) : HasWord (before ++ separator :: after) text := by
  rcases word with ⟨nonempty, isText, start, rest, rfl, left, right⟩
  refine ⟨nonempty, isText, start, rest ++ separator :: after, by simp, left, ?_⟩
  cases rest with
  | nil => simpa using separates
  | cons next rest => exact right

theorem HasWord.cons_append (word : HasWord after text) (separates : isWord separator = false)
    (before : Line) : HasWord (before ++ separator :: after) text := by
  rcases word with ⟨nonempty, isText, start, rest, rfl, left, right⟩
  refine ⟨nonempty, isText, before ++ separator :: start, rest, by simp, ?_, right⟩
  rw [List.getLast?_append_of_ne_nil _ (List.cons_ne_nil _ _), List.getLast?_cons]
  cases last : start.getLast? with
  | none => simpa using separates
  | some previous =>
      rw [last] at left
      exact left

/-- No word goes over a separator. -/
theorem HasWord.of_append_cons (word : HasWord (before ++ separator :: after) text)
    (separates : isWord separator = false) : HasWord before text ∨ HasWord after text := by
  rcases word with ⟨nonempty, isText, start, rest, split, left, right⟩
  have absent : separator ∉ text := by
    intro member
    rw [isText separator member] at separates
    cases separates
  rcases List.append_eq_append_iff.1 split with ⟨more, same, ends⟩ | ⟨more, rfl, rfl⟩
  · cases more with
    | nil =>
        left
        exact ⟨nonempty, isText, start, [], by simpa using same.symm, left, rfl⟩
    | cons first more =>
        obtain ⟨rfl, rfl⟩ := List.cons.inj ends
        rcases List.append_eq_append_iff.1 same with ⟨gap, _, rfl⟩ | ⟨gap, rfl, beyond⟩
        · exact absurd (by simp) absent
        · cases gap with
          | nil =>
              rw [List.nil_append] at beyond
              exact absurd (by simp [← beyond]) absent
          | cons first gap =>
              obtain ⟨rfl, rfl⟩ := List.cons.inj beyond
              right
              refine ⟨nonempty, isText, gap, rest, rfl, ?_, right⟩
              cases gap with
              | nil => rfl
              | cons next gap =>
                  rwa [List.getLast?_append_of_ne_nil _ (List.cons_ne_nil _ _),
                    List.getLast?_cons_cons] at left
  · left
    refine ⟨nonempty, isText, start, more, rfl, left, ?_⟩
    cases more with
    | nil => rfl
    | cons next more => exact right

theorem hasWord_append_cons_iff (separates : isWord separator = false) :
    HasWord (before ++ separator :: after) text ↔ HasWord before text ∨ HasWord after text := by
  constructor
  · intro word
    exact word.of_append_cons separates
  · rintro (word | word)
    · exact word.append_cons separates after
    · exact word.cons_append separates before

theorem mem_words_iff {line : Line} : text ∈ words line ↔ HasWord line text := by
  -- The characters before are a run that is not yet known to be at its end.
  have onwards (run : List Char) (isRun : ∀ character ∈ run, isWord character = true) :
      text ∈ words (run ++ line) ↔ HasWord (run ++ line) text := by
    induction line generalizing run with
    | nil =>
        rw [List.append_nil, words_run isRun, hasWord_run_iff isRun]
        simp [and_comm]
    | cons character rest ih =>
        cases inWord : isWord character with
        | true =>
            rw [List.append_cons]
            apply ih
            rintro other member
            rcases List.mem_append.1 member with earlier | last
            · exact isRun other earlier
            · rwa [List.mem_singleton.1 last]
        | false =>
            have later := ih [] (by simp)
            rw [List.nil_append] at later
            rw [words_append_cons inWord, hasWord_append_cons_iff inWord, List.mem_append, later,
              words_run isRun, hasWord_run_iff isRun]
            simp [and_comm]
  exact onwards [] (by simp)

end Line

end Precommit
