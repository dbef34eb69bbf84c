import Precommit.Unicode.CaseFolding
import Precommit.Unicode.Blank
import Precommit.Unicode.Decimal
import Precommit.Unicode.Property.Family
import Precommit.Unicode.Word

/-!
# Sets of characters

The sets that a pattern can name, as expressions. Closing a set under case is one
of the expressions, so the order of closing and complementing stays visible:
`caseless (complement s)` and `complement (caseless s)` are different sets.
-/

namespace Precommit

/-- An expression for a set of characters. -/
inductive CharSet
  /-- The characters from `first` to `last`. -/
  | range (first last : Char)
  /-- White space. -/
  | blank
  /-- Decimal digits. -/
  | decimal
  /-- Word characters. -/
  | word
  /-- The characters with the value at a position of a family of property values. -/
  | property (family : Unicode.PropertyFamily) (position : Nat)
  | complement (set : CharSet)
  | union (left right : CharSet)
  | intersection (left right : CharSet)
  /-- The characters that agree with a member up to case. -/
  | caseless (set : CharSet)
deriving DecidableEq, Repr

namespace CharSet

def contains (set : CharSet) (character : Char) : Bool :=
  match set with
  | .range first last => first ≤ character && character ≤ last
  | .blank => Unicode.isBlank character
  | .decimal => Unicode.isDecimal character
  | .word => Unicode.isWord character
  | .property family position => (family.table position).contains character.toNat
  | .complement set => !set.contains character
  | .union left right => left.contains character || right.contains character
  | .intersection left right => left.contains character && right.contains character
  | .caseless set => (Unicode.caseVariants character).any fun variant => set.contains variant

def single (character : Char) : CharSet :=
  .range character character

def all : CharSet :=
  .range '\u0000' (Char.ofNat 0x10FFFF)

def none : CharSet :=
  .complement all

def ascii : CharSet :=
  .range '\u0000' '\u007f'

/-- The members of the left set that are not in the right one. -/
def difference (left right : CharSet) : CharSet :=
  .intersection left (.complement right)

/-- The characters in exactly one of the two sets. -/
def symmetricDifference (left right : CharSet) : CharSet :=
  .union (left.difference right) (right.difference left)

def unions (sets : List CharSet) : CharSet :=
  match sets with
  | [] => none
  | [set] => set
  | set :: rest => .union set (unions rest)

def ofList (characters : List Char) : CharSet :=
  unions (characters.map single)

/-- The complement of the set if `negated`, otherwise the set itself. -/
def negateIf (negated : Bool) (set : CharSet) : CharSet :=
  if negated then .complement set else set

/--
Whether a range of members extends over the code points of surrogates, which are no
characters.
-/
def spansSurrogates : CharSet → Bool
  | .range first last => first ≤ '\ud7ff' && '\ue000' ≤ last
  | .blank => false
  | .decimal => false
  | .word => false
  | .property _ _ => false
  | .complement set => !set.contains '\ud7ff' && !set.contains '\ue000'
  | .union left right => left.spansSurrogates || right.spansSurrogates
  | .intersection left right => left.spansSurrogates && right.spansSurrogates
  | .caseless set => set.spansSurrogates

/--
The set that negation makes of a class: the complement, and with it the two neighbours
of the surrogates if they are members of separate ranges.
-/
def negation (set : CharSet) : CharSet :=
  if set.contains '\ud7ff' && set.contains '\ue000' && !set.spansSurrogates then
    .union (.complement set) (.range '\ud7ff' '\ue000')
  else .complement set

end CharSet

end Precommit
