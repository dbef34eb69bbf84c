import Mathlib.Data.List.Forall2
import Precommit.Proofs.Pattern.Resumption
import Precommit.Proofs.Pattern.LiteralText

/-!
# What composed patterns accept

Sequences and alternatives of many patterns are nested evenly, which their meaning does not
show: a sequence accepts adjacent stretches, one for each of its patterns, and an alternative
what one of its patterns accepts. The expression for a choice between literal texts accepts
exactly these texts.
-/

namespace Precommit

namespace CharSet

theorem contains_single_iff {member character : Char} :
    (single member).contains character = true ↔ character = member := by
  simp only [single, contains, Bool.and_eq_true, decide_eq_true_eq]
  exact ⟨fun bounds => Char.le_antisymm bounds.2 bounds.1, fun same => by simp [same]⟩

theorem contains_complement_single_iff {member character : Char} :
    (complement (single member)).contains character = true ↔ character ≠ member := by
  rw [contains, Bool.not_eq_true', ← Bool.not_eq_true, contains_single_iff]

theorem contains_all (character : Char) : all.contains character = true := by
  have bounds : 0 ≤ character.val.toNat ∧ character.val.toNat ≤ 0x10FFFF := by
    rcases character.valid with low | ⟨_, high⟩ <;> omega
  simp only [all, contains, Bool.and_eq_true, decide_eq_true_eq, Char.le_def,
    UInt32.le_iff_toNat_le]
  exact bounds

end CharSet

namespace Assertion

theorem holds_textStart_iff {before after : List Char} :
    textStart.holds (Place.between before after) = true ↔ before = [] :=
  Option.isNone_iff_eq_none.trans List.getLast?_eq_none_iff

theorem holds_textEnd_iff {before after : List Char} :
    textEnd.holds (Place.between before after) = true ↔ after = [] :=
  Option.isNone_iff_eq_none.trans List.head?_eq_none_iff

end Assertion

namespace Pattern

/-- The patterns accept adjacent stretches, each pattern one of them. -/
def AcceptsEach : List Pattern → List Char → List Char → List Char → Prop
  | [], _, stretch, _ => stretch = []
  | pattern :: patterns, before, stretch, after =>
      ∃ left right, stretch = left ++ right ∧ Accepts pattern before left (right ++ after) ∧
        AcceptsEach patterns (before ++ left) right after

variable {before stretch after : List Char}

section

variable {set : CharSet} {patterns : List Pattern}

theorem acceptsEach_singleton_iff {pattern : Pattern} :
    AcceptsEach [pattern] before stretch after ↔ Accepts pattern before stretch after := by
  constructor
  · rintro ⟨left, right, rfl, accepted, rfl⟩
    rwa [List.append_nil]
  · intro accepted
    exact ⟨stretch, [], (List.append_nil stretch).symm, accepted, rfl⟩

theorem acceptsEach_append_iff {firsts seconds : List Pattern} :
    AcceptsEach (firsts ++ seconds) before stretch after ↔
      ∃ left right, stretch = left ++ right ∧ AcceptsEach firsts before left (right ++ after) ∧
        AcceptsEach seconds (before ++ left) right after := by
  induction firsts generalizing before stretch with
  | nil =>
      constructor
      · intro accepted
        exact ⟨[], stretch, rfl, rfl, by rwa [List.append_nil]⟩
      · rintro ⟨left, right, rfl, rfl, accepted⟩
        rwa [List.append_nil] at accepted
  | cons pattern firsts ih =>
      constructor
      · rintro ⟨left, right, rfl, accepted, followed⟩
        rcases ih.1 followed with ⟨middle, right, rfl, inFirsts, inSeconds⟩
        refine ⟨left ++ middle, right, (List.append_assoc ..).symm,
          ⟨left, middle, rfl, ?_, inFirsts⟩, ?_⟩
        · rwa [← List.append_assoc]
        · rwa [← List.append_assoc]
      · rintro ⟨_, right, rfl, ⟨left, middle, rfl, accepted, inFirsts⟩, inSeconds⟩
        refine ⟨left, middle ++ right, List.append_assoc .., ?_, ih.2
          ⟨middle, right, rfl, inFirsts, ?_⟩⟩
        · rwa [List.append_assoc]
        · rwa [List.append_assoc]

theorem acceptsEach_char_cons_iff :
    AcceptsEach (.char set :: patterns) before stretch after ↔
      ∃ character rest, stretch = character :: rest ∧ set.contains character = true ∧
        AcceptsEach patterns (before ++ [character]) rest after := by
  simp only [AcceptsEach, accepts_char_iff]
  constructor
  · rintro ⟨_, rest, rfl, ⟨character, member, rfl⟩, followed⟩
    exact ⟨character, rest, rfl, member, followed⟩
  · rintro ⟨character, rest, rfl, member, followed⟩
    exact ⟨[character], rest, rfl, ⟨character, member, rfl⟩, followed⟩

theorem acceptsEach_assertion_cons_iff {condition : Assertion} :
    AcceptsEach (.assertion condition :: patterns) before stretch after ↔
      condition.holds (Place.between before (stretch ++ after)) = true ∧
        AcceptsEach patterns before stretch after := by
  simp only [AcceptsEach, accepts_assertion_iff]
  constructor
  · rintro ⟨_, rest, rfl, ⟨holds, rfl⟩, followed⟩
    rw [List.append_nil] at followed
    exact ⟨holds, followed⟩
  · rintro ⟨holds, followed⟩
    exact ⟨[], stretch, rfl, ⟨holds, rfl⟩, by rwa [List.append_nil]⟩

theorem accepts_sequenceAll_iff :
    Accepts (sequenceAll patterns) before stretch after ↔
      AcceptsEach patterns before stretch after := by
  induction patterns using sequenceAll.induct generalizing before stretch after with
  | case1 => rw [sequenceAll, accepts_empty_iff, AcceptsEach]
  | case2 pattern => rw [sequenceAll, acceptsEach_singleton_iff]
  | case3 first second rest patterns ihTake =>
      rename_i ihDrop
      have halves := @acceptsEach_append_iff before stretch after
        (patterns.take (patterns.length / 2)) (patterns.drop (patterns.length / 2))
      rw [List.take_append_drop] at halves
      simp only [sequenceAll, accepts_sequence_iff]
      simp only [patterns] at ihTake ihDrop halves
      simp only [ihTake, ihDrop, halves]

theorem accepts_alternativeAll_iff :
    Accepts (alternativeAll patterns) before stretch after ↔
      ∃ pattern ∈ patterns, Accepts pattern before stretch after := by
  induction patterns using alternativeAll.induct with
  | case1 =>
      simp only [alternativeAll, accepts_char_iff, CharSet.none, CharSet.contains,
        CharSet.contains_all, Bool.not_true, Bool.false_eq_true, false_and, exists_false,
        List.not_mem_nil]
  | case2 pattern => simp only [alternativeAll, List.mem_singleton, exists_eq_left]
  | case3 first second rest patterns ihTake =>
      rename_i ihDrop
      simp only [patterns] at ihTake ihDrop
      rw [alternativeAll, accepts_alternative_iff, ihTake, ihDrop]
      simp only [← exists_or, ← or_and_right, ← List.mem_append, List.take_append_drop]

/-- A literal text accepts itself. -/
theorem acceptsEach_singles_iff {text : List Char} :
    AcceptsEach (text.map fun character => .char (.single character)) before stretch after ↔
      stretch = text := by
  induction text generalizing before stretch with
  | nil => rfl
  | cons character text ih =>
      simp only [List.map_cons, AcceptsEach, accepts_char_iff, CharSet.contains_single_iff, ih]
      constructor
      · rintro ⟨_, _, rfl, ⟨_, rfl, rfl⟩, rfl⟩
        rfl
      · rintro rfl
        exact ⟨[character], text, rfl, ⟨character, rfl, rfl⟩, rfl⟩

theorem accepts_repeated_char_iff :
    Accepts (.repeated (.char set)) before stretch after ↔
      stretch ≠ [] ∧ ∀ character ∈ stretch, set.contains character = true := by
  induction stretch generalizing before with
  | nil => simp [accepts_repeated_nil_iff, accepts_char_iff]
  | cons character stretch ih =>
      rw [accepts_repeated_cons_iff, List.forall_mem_cons]
      simp only [accepts_char_iff, List.cons.injEq]
      constructor
      · rintro ⟨_, right, rfl, ⟨_, member, rfl, rfl⟩, rfl | followed⟩
        · exact ⟨by simp, member, by simp⟩
        · exact ⟨by simp, member, (ih.1 followed).2⟩
      · rintro ⟨_, member, members⟩
        refine ⟨[], stretch, rfl, ⟨character, member, rfl, rfl⟩, ?_⟩
        cases stretch with
        | nil => exact .inl rfl
        | cons next stretch => exact .inr (ih.2 ⟨by simp, members⟩)

theorem accepts_star_char_iff :
    Accepts (star (.char set)) before stretch after ↔
      ∀ character ∈ stretch, set.contains character = true := by
  rw [star, optional, accepts_alternative_iff, accepts_repeated_char_iff, accepts_empty_iff]
  cases stretch <;> simp

end

namespace Expression

theorem patterns_eq (done : List Pattern) (expressions : List Expression) :
    patterns done expressions = done.reverse ++ expressions.map pattern := by
  induction expressions generalizing done with
  | nil => simp [patterns]
  | cons expression rest ih => simp [patterns, ih]

theorem pattern_sequence (items : List Expression) :
    (sequence items).pattern = sequenceAll (items.map pattern) := by
  rw [pattern, patterns_eq]
  rfl

theorem pattern_ofItems (items : List Expression) :
    (ofItems items).pattern = sequenceAll (items.map pattern) := by
  unfold ofItems
  split
  · rw [pattern, List.map_nil, sequenceAll]
  · rw [List.map_singleton, sequenceAll]
  · exact pattern_sequence items

theorem pattern_ofBranches (branches : List Expression) :
    (ofBranches branches).pattern = alternativeAll (branches.map pattern) := by
  unfold ofBranches
  split
  · rw [List.map_singleton, alternativeAll]
  · rw [pattern, patterns_eq]
    rfl

theorem accepts_literalText_iff {text : List Char} :
    Accepts (literalText text).pattern before stretch after ↔ stretch = text := by
  rw [literalText, pattern_ofItems, accepts_sequenceAll_iff, List.map_map]
  exact acceptsEach_singles_iff

theorem acceptsEach_literal_cons_iff {character : Char} {patterns : List Pattern} :
    AcceptsEach ((literal character).pattern :: patterns) before stretch after ↔
      ∃ rest, stretch = character :: rest ∧
        AcceptsEach patterns (before ++ [character]) rest after := by
  rw [literal, pattern, acceptsEach_char_cons_iff]
  simp only [CharSet.contains_single_iff]
  constructor
  · rintro ⟨_, rest, rfl, rfl, followed⟩
    exact ⟨rest, rfl, followed⟩
  · rintro ⟨rest, rfl, followed⟩
    exact ⟨character, rest, rfl, rfl, followed⟩

/-- A choice between texts accepts these and nothing else. -/
theorem accepts_literalChoice_iff {texts : List (List Char)} (nonempty : texts ≠ []) :
    Accepts (literalChoice texts).pattern before stretch after ↔ stretch ∈ texts := by
  have choices : texts.isEmpty = false := List.isEmpty_eq_false_iff.2 nonempty
  rw [literalChoice, pattern, pattern_ofBranches, accepts_alternativeAll_iff]
  simp only [choices, Bool.false_eq_true, if_false, List.map_map]
  constructor
  · rintro ⟨_, member, accepted⟩
    rcases List.mem_map.1 member with ⟨text, listed, rfl⟩
    rwa [accepts_literalText_iff.1 accepted]
  · intro member
    exact ⟨_, List.mem_map_of_mem member, accepts_literalText_iff.2 rfl⟩

theorem acceptsEach_literalChoice_cons_iff {texts : List (List Char)} {patterns : List Pattern}
    (nonempty : texts ≠ []) :
    AcceptsEach ((literalChoice texts).pattern :: patterns) before stretch after ↔
      ∃ text ∈ texts, ∃ rest, stretch = text ++ rest ∧
        AcceptsEach patterns (before ++ text) rest after := by
  simp only [AcceptsEach, accepts_literalChoice_iff nonempty]
  constructor
  · rintro ⟨text, rest, rfl, listed, followed⟩
    exact ⟨text, listed, rest, rfl, followed⟩
  · rintro ⟨text, listed, rest, rfl, followed⟩
    exact ⟨text, rest, rfl, listed, followed⟩

end Expression

/-- The patterns accept the same stretches of text, wherever these stand. -/
def Equivalent (first second : Pattern) : Prop :=
  ∀ before stretch after, Accepts first before stretch after ↔ Accepts second before stretch after

theorem Equivalent.refl (pattern : Pattern) : Equivalent pattern pattern :=
  fun _ _ _ => Iff.rfl

theorem Equivalent.isMatch_eq {first second : Pattern} (same : Equivalent first second)
    (text : List Char) : first.isMatch text = second.isMatch text := by
  rw [Bool.eq_iff_iff, isMatch_iff, isMatch_iff]
  simp only [Matches, same _ _ _]

theorem acceptsEach_congr {firsts seconds : List Pattern}
    (same : List.Forall₂ Equivalent firsts seconds) :
    AcceptsEach firsts before stretch after ↔ AcceptsEach seconds before stretch after := by
  induction same generalizing before stretch with
  | nil => rfl
  | cons same _ ih => simp only [AcceptsEach, same _ _ _, ih]

theorem equivalent_sequenceAll {firsts seconds : List Pattern}
    (same : List.Forall₂ Equivalent firsts seconds) :
    Equivalent (sequenceAll firsts) (sequenceAll seconds) := by
  intro before stretch after
  rw [accepts_sequenceAll_iff, accepts_sequenceAll_iff]
  exact acceptsEach_congr same

/-- A choice between texts depends on which texts there are, and on nothing else. -/
theorem Expression.equivalent_literalChoice {texts texts' : List (List Char)}
    (same : ∀ text, text ∈ texts ↔ text ∈ texts') :
    Equivalent (literalChoice texts).pattern (literalChoice texts').pattern := by
  cases texts with
  | nil =>
      have none : texts' = [] := by
        apply List.eq_nil_iff_forall_not_mem.2
        intro text member
        exact List.not_mem_nil ((same text).2 member)
      rw [none]
      exact .refl _
  | cons first rest =>
      have nonempty : first :: rest ≠ [] := List.cons_ne_nil first rest
      have nonempty' : texts' ≠ [] :=
        List.ne_nil_of_mem ((same first).1 List.mem_cons_self)
      intro before stretch after
      rw [accepts_literalChoice_iff nonempty, accepts_literalChoice_iff nonempty']
      exact same stretch

end Pattern

end Precommit
