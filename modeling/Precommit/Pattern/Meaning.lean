import Precommit.Pattern.Basic

/-!
# The meaning of patterns

`Accepts pattern before stretch after` says that the pattern accepts a stretch of
text which stands between `before` and `after`. A text matches when some stretch
of it is accepted; this is the meaning that `Pattern.isMatch` decides.
-/

namespace Precommit

namespace Place

/-- The place between two adjacent texts. -/
def between (before after : List Char) : Place where
  before := before.getLast?
  after := after.head?

end Place

namespace Pattern

/-- The pattern accepts a stretch of text between the text before and the text after it. -/
inductive Accepts : Pattern → List Char → List Char → List Char → Prop
  | empty {before after : List Char} : Accepts .empty before [] after
  | char {set : CharSet} {character : Char} {before after : List Char}
      (member : set.contains character = true) :
      Accepts (.char set) before [character] after
  | assertion {condition : Assertion} {before after : List Char}
      (holds : condition.holds (Place.between before after) = true) :
      Accepts (.assertion condition) before [] after
  | sequence {first second : Pattern} {before left right after : List Char}
      (accepted : Accepts first before left (right ++ after))
      (followed : Accepts second (before ++ left) right after) :
      Accepts (.sequence first second) before (left ++ right) after
  | left {left right : Pattern} {before stretch after : List Char}
      (accepted : Accepts left before stretch after) :
      Accepts (.alternative left right) before stretch after
  | right {left right : Pattern} {before stretch after : List Char}
      (accepted : Accepts right before stretch after) :
      Accepts (.alternative left right) before stretch after
  | once {body : Pattern} {before stretch after : List Char}
      (accepted : Accepts body before stretch after) :
      Accepts (.repeated body) before stretch after
  | again {body : Pattern} {before left right after : List Char}
      (accepted : Accepts body before left (right ++ after))
      (followed : Accepts (.repeated body) (before ++ left) right after) :
      Accepts (.repeated body) before (left ++ right) after

/-- Some stretch of the text is accepted. -/
def Matches (pattern : Pattern) (text : List Char) : Prop :=
  ∃ before stretch after, text = before ++ stretch ++ after ∧
    pattern.Accepts before stretch after

end Pattern

end Precommit
