import Mathlib.Computability.Language
import Precommit.Proofs.Pattern.Composition

/-!
# Languages of patterns

A pattern without assertions accepts the same stretches wherever these stand, so it stands for
a language. The language of a pattern is put together from those of its parts by the operations
on languages: concatenation for sequences, union for alternatives. The pattern matches a text
exactly if some stretch of it is in the language (`Describes.isMatch_iff`).
-/

namespace Precommit

theorem mem_mul_iff_split {language language' : Language Char} {text : List Char} :
    text ∈ language * language' ↔
      ∃ left right, text = left ++ right ∧ left ∈ language ∧ right ∈ language' := by
  rw [Language.mem_mul]
  constructor
  · rintro ⟨left, first, right, second, rfl⟩
    exact ⟨left, right, rfl, first, second⟩
  · rintro ⟨left, right, rfl, first, second⟩
    exact ⟨left, first, right, second, rfl⟩

namespace CharSet

theorem contains_unions_iff {sets : List CharSet} {character : Char} :
    (unions sets).contains character = true ↔ ∃ set ∈ sets, set.contains character = true := by
  induction sets with
  | nil => simp [unions, none, contains, contains_all]
  | cons set rest ih =>
      cases rest with
      | nil => simp [unions]
      | cons next rest =>
          change (union set (unions (next :: rest))).contains character = true ↔ _
          rw [contains, Bool.or_eq_true, ih, List.exists_mem_cons_iff (a := set)]

theorem contains_ofList_iff {characters : List Char} {character : Char} :
    (ofList characters).contains character = true ↔ character ∈ characters := by
  simp only [ofList, contains_unions_iff, List.mem_map, exists_exists_and_eq_and,
    contains_single_iff, exists_eq_right']

/-- The texts of one character of the set. -/
def one (set : CharSet) : Language Char :=
  {text | ∃ character, set.contains character = true ∧ text = [character]}

/-- The texts of at least that many characters of the set, and of no others. -/
def many (set : CharSet) (least : Nat) : Language Char :=
  {text | least ≤ text.length ∧ ∀ character ∈ text, set.contains character = true}

@[simp]
theorem mem_one_iff {set : CharSet} {text : List Char} :
    text ∈ set.one ↔ ∃ character, set.contains character = true ∧ text = [character] :=
  Iff.rfl

@[simp]
theorem mem_many_iff {set : CharSet} {least : Nat} {text : List Char} :
    text ∈ set.many least ↔
      least ≤ text.length ∧ ∀ character ∈ text, set.contains character = true :=
  Iff.rfl

theorem one_mul_many (set : CharSet) (least : Nat) :
    set.one * set.many least = set.many (least + 1) := by
  ext text
  rw [Language.mem_mul]
  constructor
  · rintro ⟨_, ⟨character, member, rfl⟩, rest, ⟨length, members⟩, rfl⟩
    rw [List.singleton_append, mem_many_iff, List.length_cons, List.forall_mem_cons]
    exact ⟨Nat.succ_le_succ length, member, members⟩
  · rintro ⟨length, members⟩
    cases text with
    | nil => cases length
    | cons character rest =>
        rw [List.forall_mem_cons] at members
        exact ⟨[character], ⟨character, members.1, rfl⟩, rest,
          ⟨Nat.le_of_succ_le_succ length, members.2⟩, rfl⟩

theorem one_pow_mul_many (set : CharSet) (count least : Nat) :
    set.one ^ count * set.many least = set.many (least + count) := by
  induction count with
  | zero => rw [pow_zero, one_mul, Nat.add_zero]
  | succ count ih => rw [pow_succ', mul_assoc, ih, one_mul_many, Nat.add_assoc]

end CharSet

namespace Pattern

/-- Wherever it stands, the pattern accepts the stretches of the language and no others. -/
def Describes (pattern : Pattern) (language : Language Char) : Prop :=
  ∀ before stretch after, Accepts pattern before stretch after ↔ stretch ∈ language

/-- One after the other, the patterns accept the stretches of the language and no others. -/
def DescribesEach (patterns : List Pattern) (language : Language Char) : Prop :=
  ∀ before stretch after, AcceptsEach patterns before stretch after ↔ stretch ∈ language

variable {pattern : Pattern} {patterns : List Pattern} {language language' : Language Char}
  {set : CharSet}

theorem Describes.isMatch_iff (describes : pattern.Describes language) (text : List Char) :
    pattern.isMatch text = true ↔ ∃ stretch ∈ language, stretch <:+: text := by
  rw [Pattern.isMatch_iff]
  constructor
  · rintro ⟨before, stretch, after, rfl, accepted⟩
    exact ⟨stretch, (describes _ _ _).1 accepted, before, after, rfl⟩
  · rintro ⟨stretch, member, before, after, rfl⟩
    exact ⟨before, stretch, after, rfl, (describes _ _ _).2 member⟩

theorem isMatch_alternativeAll_iff {text : List Char} :
    (alternativeAll patterns).isMatch text = true ↔
      ∃ pattern ∈ patterns, pattern.isMatch text = true := by
  simp only [Pattern.isMatch_iff, Matches, accepts_alternativeAll_iff]
  constructor
  · rintro ⟨before, stretch, after, split, pattern, listed, accepted⟩
    exact ⟨pattern, listed, before, stretch, after, split, accepted⟩
  · rintro ⟨pattern, listed, before, stretch, after, split, accepted⟩
    exact ⟨before, stretch, after, split, pattern, listed, accepted⟩

/-! ### Sequences -/

theorem describesEach_nil : DescribesEach [] 1 := by
  intro before stretch after
  rfl

theorem Describes.cons (head : pattern.Describes language)
    (tail : DescribesEach patterns language') :
    DescribesEach (pattern :: patterns) (language * language') := by
  intro before stretch after
  simp only [AcceptsEach, mem_mul_iff_split, head _ _ _, tail _ _ _]

theorem DescribesEach.append {patterns' : List Pattern} (first : DescribesEach patterns language)
    (second : DescribesEach patterns' language') :
    DescribesEach (patterns ++ patterns') (language * language') := by
  intro before stretch after
  simp only [acceptsEach_append_iff, mem_mul_iff_split, first _ _ _, second _ _ _]

theorem Describes.last (only : pattern.Describes language) : DescribesEach [pattern] language := by
  intro before stretch after
  rw [acceptsEach_singleton_iff]
  exact only before stretch after

theorem Describes.sequence {pattern' : Pattern} (first : pattern.Describes language)
    (second : pattern'.Describes language') :
    (pattern.sequence pattern').Describes (language * language') := by
  intro before stretch after
  simp only [accepts_sequence_iff, mem_mul_iff_split, first _ _ _, second _ _ _]

theorem DescribesEach.sequenceAll (each : DescribesEach patterns language) :
    (sequenceAll patterns).Describes language := by
  intro before stretch after
  rw [accepts_sequenceAll_iff]
  exact each before stretch after

/-! ### Choices -/

theorem describes_empty : empty.Describes 1 := by
  intro before stretch after
  exact accepts_empty_iff

theorem Describes.alternativeAll {languages : List (Language Char)}
    (each : List.Forall₂ Describes patterns languages) :
    (alternativeAll patterns).Describes languages.sum := by
  intro before stretch after
  rw [accepts_alternativeAll_iff]
  induction each with
  | nil => simp
  | cons describes _ ih =>
      rw [List.sum_cons, Language.mem_add, ← ih, List.exists_mem_cons_iff, describes _ _ _]

theorem Describes.optional (body : pattern.Describes language) :
    pattern.optional.Describes (language + 1) := by
  intro before stretch after
  rw [Pattern.optional, accepts_alternative_iff, body _ _ _, accepts_empty_iff]
  rfl

/-! ### Characters -/

theorem describes_char (set : CharSet) : (char set).Describes set.one := by
  intro before stretch after
  rw [accepts_char_iff]
  simp only [CharSet.mem_one_iff, and_comm]

theorem describes_star_char (set : CharSet) : (star (char set)).Describes (set.many 0) := by
  intro before stretch after
  rw [accepts_star_char_iff]
  simp

/-- One turn after the other: the exponents of a power add up. -/
theorem Describes.power (body : pattern.Describes language) (count : Nat) :
    (pattern.power count).Describes (language ^ count) := by
  induction count using Nat.strongRecOn with
  | ind count ih =>
      rw [Pattern.power]
      split
      case isTrue zero =>
        rw [zero, pow_zero]
        exact describes_empty
      split
      case isTrue one =>
        rw [one, pow_one]
        exact body
      case isFalse =>
        have halves : count = count / 2 + (count - count / 2) := by omega
        have product := (ih (count / 2) (by omega)).sequence (ih (count - count / 2) (by omega))
        rwa [← pow_add, ← halves] at product

theorem describes_repeated_char (set : CharSet) : (repeated (char set)).Describes (set.many 1) := by
  intro before stretch after
  rw [accepts_repeated_char_iff, CharSet.mem_many_iff, ← List.length_pos_iff]
  rfl

theorem describes_counted_char (set : CharSet) (least : Nat) :
    (counted (char set) least none).Describes (set.many least) := by
  match least with
  | 0 => exact describes_star_char set
  | 1 => exact describes_repeated_char set
  | least + 2 =>
      have turns := (describes_char set).power (least + 1)
      have whole := turns.sequence (describes_repeated_char set)
      rw [CharSet.one_pow_mul_many, Nat.add_comm 1] at whole
      exact whole

theorem describes_text (characters : List Char) : (text characters).Describes {characters} := by
  intro before stretch after
  rw [text, accepts_sequenceAll_iff, acceptsEach_singles_iff]
  rfl

theorem isMatch_text_iff {characters line : List Char} :
    (text characters).isMatch line = true ↔ characters <:+: line := by
  rw [(describes_text characters).isMatch_iff]
  constructor
  · rintro ⟨_, rfl, infixed⟩
    exact infixed
  · intro infixed
    exact ⟨characters, rfl, infixed⟩

end Pattern

end Precommit
