import Precommit.Pattern.Basic

/-!
# Searching a text for a pattern

The search reads the text once. `Progress` marks the character sets of the pattern
that have just consumed a character in some partial match; `advance` moves all
marks over the next character at once and lets new matches begin. As the marks of
all partial matches share the pattern, a step costs no more than the pattern is
large, whatever the text.
-/

namespace Precommit

namespace Pattern

/-- The partial matches inside a pattern, as marks on its character sets. -/
inductive Progress
  /-- No partial match. -/
  | idle
  /-- The character set has just consumed a character. -/
  | here
  /-- The partial matches in the two parts of a sequence or an alternative. -/
  | parts (first second : Progress)
  /-- The partial matches in the body of a repetition. -/
  | inside (body : Progress)
deriving DecidableEq, Repr

namespace Progress

def isActive : Progress → Bool
  | .idle => false
  | _ => true

/-- The marks in the first of two parts. -/
def first : Progress → Progress
  | .parts first _ => first
  | _ => .idle

/-- The marks in the second of two parts. -/
def second : Progress → Progress
  | .parts _ second => second
  | _ => .idle

/-- The marks in the body of a repetition. -/
def body : Progress → Progress
  | .inside body => body
  | _ => .idle

/-- Put the marks of two parts together. -/
def join (first second : Progress) : Progress :=
  if first.isActive || second.isActive then .parts first second else .idle

/-- Put the marks of a body into its repetition. -/
def enclose (body : Progress) : Progress :=
  if body.isActive then .inside body else .idle

end Progress

/-- Whether the pattern accepts the empty stretch at the place. -/
def acceptsEmpty (pattern : Pattern) (place : Place) : Bool :=
  match pattern with
  | .empty => true
  | .char _ => false
  | .assertion condition => condition.holds place
  | .sequence first second => first.acceptsEmpty place && second.acceptsEmpty place
  | .alternative left right => left.acceptsEmpty place || right.acceptsEmpty place
  | .repeated body => body.acceptsEmpty place

/-- Whether some partial match can end at the place. -/
def canEnd (pattern : Pattern) (place : Place) (progress : Progress) : Bool :=
  progress.isActive &&
    match pattern with
    | .empty => false
    | .assertion _ => false
    | .char _ => true
    | .sequence first second =>
        second.canEnd place progress.second ||
          (first.canEnd place progress.first && second.acceptsEmpty place)
    | .alternative left right =>
        left.canEnd place progress.first || right.canEnd place progress.second
    | .repeated body => body.canEnd place progress.body

/--
The partial matches after the next character. `enter` says whether a match of this
pattern may begin at the place before that character.
-/
def advance (pattern : Pattern) (place : Place) (character : Char) (enter : Bool)
    (progress : Progress) : Progress :=
  if enter || progress.isActive then
    match pattern with
    | .empty => .idle
    | .assertion _ => .idle
    | .char set => if enter && set.contains character then .here else .idle
    | .sequence first second =>
        let passed :=
          (enter && first.acceptsEmpty place) || first.canEnd place progress.first
        (first.advance place character enter progress.first).join
          (second.advance place character passed progress.second)
    | .alternative left right =>
        (left.advance place character enter progress.first).join
          (right.advance place character enter progress.second)
    | .repeated body =>
        let again := enter || body.canEnd place progress.body
        (body.advance place character again progress.body).enclose
  else .idle

/-- Search the rest of a text, given the partial matches and the character just before it. -/
def searchFrom (pattern : Pattern) (progress : Progress) (before : Option Char) :
    List Char → Bool
  | [] =>
      let place : Place := ⟨before, none⟩
      pattern.acceptsEmpty place || pattern.canEnd place progress
  | character :: rest =>
      let place : Place := ⟨before, some character⟩
      pattern.acceptsEmpty place || pattern.canEnd place progress ||
        pattern.searchFrom (pattern.advance place character true progress) (some character) rest

/-- Whether the pattern accepts some stretch of the text. -/
def isMatch (pattern : Pattern) (text : List Char) : Bool :=
  pattern.searchFrom .idle none text

end Pattern

end Precommit
