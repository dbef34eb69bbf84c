import Precommit.Proofs.Text.Utf8
import Precommit.Rule.Builtin

/-!
# Text in front of a match

A pattern without assertions does not see where it is applied. So characters in front of a
text make no difference to such a pattern if no match begins with one of them, which the
first step of the search tells (`isMatch_cons`). The built-in phrases and secrets are such
patterns, and none of them begins with a slash.
-/

namespace Precommit

namespace Pattern

/-- Whether the pattern asks nothing about the place where it is applied. -/
def isPlaceless : Pattern → Bool
  | .empty => true
  | .char _ => true
  | .assertion _ => false
  | .sequence first second => first.isPlaceless && second.isPlaceless
  | .alternative left right => left.isPlaceless && right.isPlaceless
  | .repeated body => body.isPlaceless

/-- Whether matches of the pattern begin with other characters, wherever it is applied. -/
def passesOver (pattern : Pattern) (character : Char) : Bool :=
  let place : Place := ⟨none, some character⟩
  pattern.isPlaceless && !pattern.acceptsEmpty place &&
    pattern.advance place character true .idle == .idle

variable {pattern : Pattern}

theorem acceptsEmpty_eq (placeless : pattern.isPlaceless = true) (place place' : Place) :
    pattern.acceptsEmpty place = pattern.acceptsEmpty place' := by
  induction pattern with
  | empty | char => rfl
  | assertion => cases placeless
  | sequence first second ihFirst ihSecond | alternative first second ihFirst ihSecond =>
      rw [isPlaceless, Bool.and_eq_true] at placeless
      rw [acceptsEmpty, acceptsEmpty, ihFirst placeless.1, ihSecond placeless.2]
  | repeated body ih =>
      rw [acceptsEmpty, acceptsEmpty, ih placeless]

theorem canEnd_eq (placeless : pattern.isPlaceless = true) (place place' : Place)
    (progress : Progress) : pattern.canEnd place progress = pattern.canEnd place' progress := by
  induction pattern generalizing progress with
  | empty | char => rfl
  | assertion => cases placeless
  | sequence first second ihFirst ihSecond =>
      rw [isPlaceless, Bool.and_eq_true] at placeless
      rw [canEnd, canEnd, ihFirst placeless.1, ihSecond placeless.2,
        acceptsEmpty_eq placeless.2 place place']
  | alternative left right ihLeft ihRight =>
      rw [isPlaceless, Bool.and_eq_true] at placeless
      rw [canEnd, canEnd, ihLeft placeless.1, ihRight placeless.2]
  | repeated body ih =>
      rw [canEnd, canEnd, ih placeless]

theorem advance_eq (placeless : pattern.isPlaceless = true) (place place' : Place)
    (character : Char) (enter : Bool) (progress : Progress) :
    pattern.advance place character enter progress =
      pattern.advance place' character enter progress := by
  induction pattern generalizing enter progress with
  | empty | char => rfl
  | assertion => cases placeless
  | sequence first second ihFirst ihSecond =>
      rw [isPlaceless, Bool.and_eq_true] at placeless
      simp only [advance, ihFirst placeless.1, ihSecond placeless.2,
        acceptsEmpty_eq placeless.1 place place', canEnd_eq placeless.1 place place']
  | alternative left right ihLeft ihRight =>
      rw [isPlaceless, Bool.and_eq_true] at placeless
      simp only [advance, ihLeft placeless.1, ihRight placeless.2]
  | repeated body ih =>
      rw [isPlaceless] at placeless
      simp only [advance, ih placeless, canEnd_eq placeless place place']

theorem searchFrom_eq (placeless : pattern.isPlaceless = true) (progress : Progress)
    (before before' : Option Char) (text : List Char) :
    pattern.searchFrom progress before text = pattern.searchFrom progress before' text := by
  cases text with
  | nil =>
      rw [searchFrom, searchFrom, acceptsEmpty_eq placeless, canEnd_eq placeless]
  | cons character rest =>
      rw [searchFrom, searchFrom, acceptsEmpty_eq placeless, canEnd_eq placeless,
        advance_eq placeless]

theorem isMatch_cons {character : Char} (passes : pattern.passesOver character = true)
    (text : List Char) : pattern.isMatch (character :: text) = pattern.isMatch text := by
  simp only [passesOver, Bool.and_eq_true, Bool.not_eq_true', beq_iff_eq] at passes
  rcases passes with ⟨⟨placeless, nonempty⟩, still⟩
  have noEnd (place : Place) : pattern.canEnd place .idle = false := by
    cases pattern <;> rfl
  rw [isMatch, searchFrom, nonempty, noEnd, still, Bool.false_or, Bool.false_or, isMatch,
    searchFrom_eq placeless]

/-- The text is a pattern that passes over the character. -/
def textPassesOver (caseless : Bool) (character : Char) (text : String) : Bool :=
  (parse? { caseless := caseless } text.toList).any (·.passesOver character)

theorem passesOver_of_compile? {limit : Option Nat} {caseless : Bool} {character : Char}
    {text : String} (compiled : compile? limit { caseless := caseless } text.toList = some pattern)
    (passes : textPassesOver caseless character text = true) :
    pattern.passesOver character = true := by
  rwa [textPassesOver, parse?_of_compile? compiled, Option.any_some] at passes

end Pattern

namespace Builtin

/-- The rules for files of any kind pass over a slash. -/
theorem texts_passOver_slash :
    (forbiddenPhrases.all fun text => Pattern.textPassesOver true '/' text.source) = true ∧
    (secrets.all fun text => Pattern.textPassesOver false '/' text.source) = true ∧
    Pattern.textPassesOver false '/' secretFalsePositive = true := by
  simp only [Pattern.textPassesOver, Utf8.toList_eq_decode]
  decide +kernel

end Builtin

end Precommit
