import Precommit.Pattern.Flags

/-!
# Classes in brackets

A class in brackets lists characters, ranges, class letters, named classes such as
`[:alpha:]` and further classes in brackets, and combines such lists by operators
that are written as a character twice. The classes that are still open are kept on a
stack. With a class goes its nesting: how many brackets, lists of several members and
operators are inside each other.
-/

namespace Precommit

namespace Pattern

/-- The operators between the parts of a bracketed class. -/
inductive SetOperator
  | intersection
  | difference
  | symmetricDifference
deriving DecidableEq, Repr

namespace SetOperator

/-- The set that the operator makes of two sets. -/
def apply (operator : SetOperator) (left right : CharSet) : CharSet :=
  match operator with
  | .intersection => .intersection left right
  | .difference => left.difference right
  | .symmetricDifference => left.symmetricDifference right

/-- The operator that is written as the character twice. -/
def ofDoubled? : Char → Option SetOperator
  | '&' => some .intersection
  | '-' => some .difference
  | '~' => some .symmetricDifference
  | _ => none

end SetOperator

/-- The classes that are named in a bracketed class, as in `[[:alpha:]]`. -/
def namedSets : List (List Char × CharSet) :=
  let digit := CharSet.range '0' '9'
  let lower := CharSet.range 'a' 'z'
  let upper := CharSet.range 'A' 'Z'
  [("alnum".toList, .unions [digit, upper, lower]),
    ("alpha".toList, .union upper lower),
    ("ascii".toList, .ascii),
    ("blank".toList, .ofList ['\t', ' ']),
    ("cntrl".toList, .union (.range '\u0000' '\u001f') (.single '\u007f')),
    ("digit".toList, digit),
    ("graph".toList, .range '!' '~'),
    ("lower".toList, lower),
    ("print".toList, .range ' ' '~'),
    ("punct".toList,
      .unions [.range '!' '/', .range ':' '@', .range '[' '\x60', .range '{' '~']),
    ("space".toList, .union (.range '\t' '\r') (.single ' ')),
    ("upper".toList, upper),
    ("word".toList, .unions [digit, upper, .single '_', lower]),
    ("xdigit".toList, .unions [digit, .range 'A' 'F', .range 'a' 'f'])]

/-- A set together with the nesting of the class that stands for it. -/
structure NestedSet where
  set : CharSet
  nesting : Nat

/-- A bracketed class that is still open. -/
structure OpenSet where
  negated : Bool := false
  /-- The left operand of an operator and the operator. -/
  operand : Option (NestedSet × SetOperator) := none
  /-- The members so far, of the right operand if there is an operator; the last one first. -/
  members : List CharSet := []
  /-- The deepest nesting of a member. -/
  nesting : Nat := 0

namespace OpenSet

def add (inner : OpenSet) (member : NestedSet) : OpenSet :=
  { inner with
    members := member.set :: inner.members
    nesting := max inner.nesting member.nesting }

/-- The members as one set. -/
def list (inner : OpenSet) : NestedSet where
  set := .unions inner.members.reverse
  nesting := if 2 ≤ inner.members.length then inner.nesting + 1 else inner.nesting

/-- Everything before the place reached, as one set. -/
def total (inner : OpenSet) (flags : Flags) : NestedSet :=
  match inner.operand with
  | none => inner.list
  | some (left, operator) =>
      { set := operator.apply (flags.fold left.set) (flags.fold inner.list.set)
        nesting := max left.nesting inner.list.nesting + 1 }

/-- Begin the right operand of an operator. -/
def operate (inner : OpenSet) (flags : Flags) (operator : SetOperator) : OpenSet where
  negated := inner.negated
  operand := some (inner.total flags, operator)

/-- The set of a class at its closing bracket. -/
def close? (inner : OpenSet) (flags : Flags) : Option NestedSet :=
  let total := inner.total flags
  let set := flags.fold total.set
  if flags.allows inner.negated then
    some ⟨if inner.negated then set.negation else set, total.nesting + 1⟩
  else none

/-- Add a number of hyphens as members. -/
def addHyphens (inner : OpenSet) (count : Nat) : OpenSet :=
  { inner with members := List.replicate count (.single '-') ++ inner.members }

end OpenSet

namespace Bracket

/-- The number of hyphens at the beginning of a text, and how much of it they take up. -/
def readHyphens (isVerbose : Bool) (text : List Char) : Nat × Nat :=
  match text with
  | '-' :: rest =>
      let skipped := gap isVerbose rest
      let (count, used) := readHyphens isVerbose (rest.drop skipped)
      (count + 1, used + skipped + 1)
  | _ => (0, 0)
termination_by text.length
decreasing_by
  simp only [List.length_cons, List.length_drop]
  omega

/--
The beginning of a class, after its opening bracket: a circumflex that negates it, and
hyphens, or a closing bracket in their place, as members.
-/
def readOpening (isVerbose : Bool) (text : List Char) : OpenSet × Nat :=
  let start := gap isVerbose text
  let negated := (text.drop start).head? == some '^'
  let start := if negated then start + 1 + gap isVerbose (text.drop (start + 1)) else start
  let inner : OpenSet := { negated := negated }
  match text.drop start with
  | ']' :: _ => (inner.add ⟨.single ']', 0⟩, start + 1)
  | rest =>
      let (count, used) := readHyphens isVerbose rest
      (inner.addHyphens count, start + used)

/-- A named class, after the first bracket of its name: whether it is negated, and the class. -/
def readNamed? (text : List Char) : Option (Bool × CharSet × Nat) :=
  match text with
  | ':' :: rest => do
      let negated := rest.head? == some '^'
      let rest := rest.drop negated.toNat
      let name := rest.takeWhile (· != ':')
      let set ← namedSets.lookup name
      if (rest.drop name.length).take 2 = [':', ']'] then
        pure (negated, set, name.length + negated.toNat + 3)
      else none
  | _ => none

/--
Whether a hyphen is a member itself or half of an operator, and makes no range, as the
text after it begins with a closing bracket or another hyphen. Verbose texts are
searched for that character beyond white space and one number sign.
-/
def isHyphenAlone (isVerbose : Bool) (text : List Char) : Bool :=
  let next :=
    if isVerbose then
      match text.dropWhile Unicode.isBlank with
      | '#' :: rest => rest.dropWhile Unicode.isBlank
      | rest => rest
    else text
  next.head?.any fun character => character == ']' || character == '-'

/--
The members that begin with a character: a range, or what a symbol stands for. The
number says how much of the text after that character is used.
-/
def readMember? (flags : Flags) (character : Char) (rest : List Char) :
    Option (CharSet × Nat) := do
  let (first, used) ← Symbol.read? flags.verbose character rest
  let start := used + gap flags.verbose (rest.drop used)
  match rest.drop start with
  | '-' :: after =>
      if isHyphenAlone flags.verbose after then pure (← flags.members? first, used)
      else
        let skipped := gap flags.verbose after
        match after.drop skipped with
        | [] => none
        | character :: rest =>
            let (last, used) ← Symbol.read? flags.verbose character rest
            pure (← flags.range? first last, start + 1 + skipped + 1 + used)
  | _ => pure (← flags.members? first, used)

/--
Read a class from some place inside it to its end. `around` holds the open classes
around the innermost one, and `used` counts the characters used so far.
-/
def readFrom? (flags : Flags) (inner : OpenSet) (around : List OpenSet) (used : Nat)
    (text : List Char) : Option (NestedSet × Nat) :=
  let skipped := gap flags.verbose text
  match _equation : text.drop skipped with
  | [] => none
  | character :: rest =>
      let used := used + skipped + 1
      if character == '[' then
        match readNamed? rest with
        | some (negated, set, length) =>
            if flags.allows negated then
              readFrom? flags (inner.add ⟨(flags.fold set).negateIf negated, 0⟩) around
                (used + length) (rest.drop length)
            else none
        | none =>
            let (opened, length) := readOpening flags.verbose rest
            readFrom? flags opened (inner :: around) (used + length) (rest.drop length)
      else if character == ']' then
        match inner.close? flags, around with
        | none, _ => none
        | some set, [] => some (set, used)
        | some set, outer :: around => readFrom? flags (outer.add set) around used rest
      else
        match SetOperator.ofDoubled? character, rest.head? == some character with
        | some operator, true =>
            readFrom? flags (inner.operate flags operator) around (used + 1) (rest.drop 1)
        | _, _ =>
            match readMember? flags character rest with
            | none => none
            | some (set, length) =>
                readFrom? flags (inner.add ⟨set, 0⟩) around (used + length) (rest.drop length)
termination_by text.length
decreasing_by
  all_goals
    have := congrArg List.length _equation
    simp only [List.length_drop, List.length_cons] at this ⊢
    omega

/-- Read a class after its opening bracket. -/
def read? (flags : Flags) (text : List Char) : Option (NestedSet × Nat) :=
  let (opened, length) := readOpening flags.verbose text
  readFrom? flags opened [] length (text.drop length)

end Bracket

end Pattern

end Precommit
