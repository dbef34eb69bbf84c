import Precommit.Pattern.CharSet

/-!
# Patterns

The abstract syntax of patterns. A pattern consumes characters, one for each
character set on the way, and checks assertions on the place between two
characters. Optional parts and counted repetition are abbreviations.
-/

namespace Precommit

/-- A place in a text, seen through the characters on its two sides. -/
structure Place where
  before : Option Char
  after : Option Char
deriving DecidableEq, Repr

/-- How a place may lie to the words of the text around it. -/
inductive WordEdge
  | edge
  | noEdge
  | start
  | finish
  | halfStart
  | halfFinish
deriving DecidableEq, Repr

/-- A condition on a place in a text. -/
inductive Assertion
  | textStart
  | textEnd
  | lineStart
  | lineEnd
  /-- The start of a line where lines end in a carriage return, a line feed or both. -/
  | anyLineStart
  /-- The end of a line where lines end in a carriage return, a line feed or both. -/
  | anyLineEnd
  /-- A position relative to the runs of characters of the set `members`. -/
  | wordEdge (position : WordEdge) (members : CharSet)
deriving DecidableEq, Repr

namespace Assertion

def holds (assertion : Assertion) (place : Place) : Bool :=
  match assertion with
  | .textStart => place.before.isNone
  | .textEnd => place.after.isNone
  | .lineStart => place.before.all (· == '\n')
  | .lineEnd => place.after.all (· == '\n')
  | .anyLineStart =>
      place.before.all (· == '\n') || (place.before == some '\r' && place.after != some '\n')
  | .anyLineEnd =>
      place.after.all (· == '\r') || (place.after == some '\n' && place.before != some '\r')
  | .wordEdge position members =>
      let before := place.before.any members.contains
      let after := place.after.any members.contains
      match position with
      | .edge => before != after
      | .noEdge => before == after
      | .start => !before && after
      | .finish => before && !after
      | .halfStart => !before
      | .halfFinish => !after

end Assertion

/-- A pattern for a stretch of text. -/
inductive Pattern
  /-- The empty stretch. -/
  | empty
  /-- One character of the set. -/
  | char (set : CharSet)
  /-- The empty stretch, at a place where the assertion holds. -/
  | assertion (condition : Assertion)
  /-- One stretch after the other. -/
  | sequence (first second : Pattern)
  | alternative (left right : Pattern)
  /-- One or more stretches of the body. -/
  | repeated (body : Pattern)
deriving DecidableEq, Repr

namespace Pattern

/-- The body or nothing. -/
def optional (body : Pattern) : Pattern :=
  .alternative body .empty

/-- Zero or more stretches of the body. -/
def star (body : Pattern) : Pattern :=
  optional (.repeated body)

/--
The patterns one after the other. They are nested evenly, here and in the functions
below, so that many parts do not make a deep pattern.
-/
def sequenceAll (patterns : List Pattern) : Pattern :=
  match patterns with
  | [] => .empty
  | [pattern] => pattern
  | first :: second :: rest =>
      let patterns := first :: second :: rest
      .sequence (sequenceAll (patterns.take (patterns.length / 2)))
        (sequenceAll (patterns.drop (patterns.length / 2)))
termination_by patterns.length
decreasing_by
  all_goals simp
  all_goals omega

/-- One of the patterns; with none to choose from nothing matches. -/
def alternativeAll (patterns : List Pattern) : Pattern :=
  match patterns with
  | [] => .char .none
  | [pattern] => pattern
  | first :: second :: rest =>
      let patterns := first :: second :: rest
      .alternative (alternativeAll (patterns.take (patterns.length / 2)))
        (alternativeAll (patterns.drop (patterns.length / 2)))
termination_by patterns.length
decreasing_by
  all_goals simp
  all_goals omega

/-- The characters of a text, one after the other. -/
def text (characters : List Char) : Pattern :=
  sequenceAll (characters.map fun character => .char (.single character))

/-- Whether some stretch with a character in it has the form of the pattern. -/
def canConsume : Pattern → Bool
  | .empty => false
  | .char _ => true
  | .assertion _ => false
  | .sequence first second => first.canConsume || second.canConsume
  | .alternative left right => left.canConsume || right.canConsume
  | .repeated body => body.canConsume

/-- Exactly `count` stretches of the body. -/
def power (body : Pattern) (count : Nat) : Pattern :=
  if count = 0 then .empty
  else if count = 1 then body
  else .sequence (power body (count / 2)) (power body (count - count / 2))
termination_by count

/--
From `least` to `most` stretches of the body, without an upper bound if `most` is missing.
A body that consumes nothing needs no second turn.
-/
def counted (body : Pattern) (least : Nat) (most : Option Nat) : Pattern :=
  if !body.canConsume then
    if most = some 0 then .empty
    else if least = 0 then body.optional
    else body
  else
    match least, most with
    | 0, none => body.star
    | 1, none => .repeated body
    | least, none => .sequence (body.power (least - 1)) (.repeated body)
    | least, some most =>
        if most ≤ least then body.power least
        else if least = 0 then body.optional.power most
        else .sequence (body.power least) (body.optional.power (most - least))

/-- The pattern, matched against the text from its start to its end. -/
def whole (pattern : Pattern) : Pattern :=
  .sequence (.assertion .textStart) (.sequence pattern (.assertion .textEnd))

end Pattern

end Precommit
