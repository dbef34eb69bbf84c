import Precommit.Pattern.Basic
import Precommit.Pattern.CharRanges

/-!
# Plans of automata

A plan is the form of a pattern from which an automaton is built. Plans are put
together by functions that bring them into a normal form: adjacent characters are
joined to texts, alternatives between single characters to sets, a common beginning
is taken out of an alternative, and repetitions that cannot make a difference are
left out.
-/

namespace Precommit

namespace Pattern

/-- A normal form of patterns. -/
inductive Plan
  | empty
  /-- A text of at least one character. -/
  | text (characters : List Char)
  | set (ranges : CodeRanges)
  | assertion (condition : Assertion)
  | repetition (least : Nat) (most : Option Nat) (isLazy : Bool) (body : Plan)
  /-- What a group of the given number stands for. -/
  | capture (index : Nat) (body : Plan)
  /-- Two or more plans one after the other, none of which is itself a sequence. -/
  | sequence (items : List Plan)
  /-- One of two or more plans, none of which is itself an alternative. -/
  | alternative (branches : List Plan)

namespace Plan

mutual

def isSame : Plan → Plan → Bool
  | .empty, .empty => true
  | .text left, .text right => left == right
  | .set left, .set right => left == right
  | .assertion left, .assertion right => left == right
  | .repetition least most isLazy body, .repetition least' most' isLazy' body' =>
      least == least' && most == most' && isLazy == isLazy' && body.isSame body'
  | .capture index body, .capture index' body' => index == index' && body.isSame body'
  | .sequence items, .sequence items' => areSame items items'
  | .alternative branches, .alternative branches' => areSame branches branches'
  | _, _ => false

/-- Whether two lists of plans are the same. -/
def areSame : List Plan → List Plan → Bool
  | [], [] => true
  | plan :: rest, plan' :: rest' => plan.isSame plan' && areSame rest rest'
  | _, _ => false

end

/-- The number of bytes in the encoding of a code point. -/
def codeSize (code : Nat) : Nat :=
  (Char.ofNat code).utf8Size

/-- Two numbers of bytes put together, if neither is missing. -/
def combine (join : Nat → Nat → Nat) (left right : Option Nat) : Option Nat :=
  left.bind fun left => right.map fun right => join left right

mutual

/-- The fewest bytes that a match takes; missing where nothing can match. -/
def minimumLength : Plan → Option Nat
  | .empty => some 0
  | .text characters => some (characters.foldl (fun size character => size + character.utf8Size) 0)
  | .set ranges => ranges.head?.map fun range => codeSize range.1
  | .assertion _ => some 0
  | .repetition least _ _ body => body.minimumLength.map (· * least)
  | .capture _ body => body.minimumLength
  | .sequence items => minimumOfItems (some 0) items
  | .alternative [] => none
  | .alternative (first :: rest) => minimumOfBranches first.minimumLength rest

/-- The fewest bytes of a sequence, given those of the items before. -/
def minimumOfItems (before : Option Nat) : List Plan → Option Nat
  | [] => before
  | item :: rest => minimumOfItems (combine (· + ·) before item.minimumLength) rest

/-- The fewest bytes of an alternative, given those of the branches before. -/
def minimumOfBranches (before : Option Nat) : List Plan → Option Nat
  | [] => before
  | branch :: rest => minimumOfBranches (combine min before branch.minimumLength) rest

end

mutual

/-- The most bytes that a match takes; missing without a bound or where nothing can match. -/
def maximumLength : Plan → Option Nat
  | .empty => some 0
  | .text characters => some (characters.foldl (fun size character => size + character.utf8Size) 0)
  | .set ranges => ranges.getLast?.map fun range => codeSize range.2
  | .assertion _ => some 0
  | .repetition _ most _ body => combine (· * ·) body.maximumLength most
  | .capture _ body => body.maximumLength
  | .sequence items => maximumOfItems (some 0) items
  | .alternative [] => none
  | .alternative (first :: rest) => maximumOfBranches first.maximumLength rest

/-- The most bytes of a sequence, given those of the items before. -/
def maximumOfItems (before : Option Nat) : List Plan → Option Nat
  | [] => before
  | item :: rest => maximumOfItems (combine (· + ·) before item.maximumLength) rest

/-- The most bytes of an alternative, given those of the branches before. -/
def maximumOfBranches (before : Option Nat) : List Plan → Option Nat
  | [] => before
  | branch :: rest => maximumOfBranches (combine max before branch.maximumLength) rest

end

/-- The plan for one character of a set; a single character is a text. -/
def ofRanges (ranges : CodeRanges) : Plan :=
  match ranges with
  | [(first, last)] => if first = last then .text [Char.ofNat first] else .set ranges
  | _ => .set ranges

/-- The items that the plan contributes to a sequence. -/
def items : Plan → List Plan
  | .empty => []
  | .sequence items => items
  | plan => [plan]

/-- Put an item before others, and join it with the next one if both are texts. -/
def prepend (item : Plan) (rest : List Plan) : List Plan :=
  match item, rest with
  | .text left, .text right :: rest => .text (left ++ right) :: rest
  | item, rest => item :: rest

/-- The plans one after the other. -/
def sequenceAll (plans : List Plan) : Plan :=
  match (plans.flatMap items).foldr prepend [] with
  | [] => .empty
  | [plan] => plan
  | plans => .sequence plans

/-- The branches that the plan contributes to an alternative. -/
def branches : Plan → List Plan
  | .alternative branches => branches
  | plan => [plan]

/-- The characters of a plan that takes exactly one character. -/
def ranges? : Plan → Option CodeRanges
  | .text [character] => some [(character.toNat, character.toNat)]
  | .set ranges => some ranges
  | _ => none

/-- One of the branches; branches of one character each are joined to a set. -/
def choice (branches : List Plan) : Plan :=
  match branches with
  | [] => .set []
  | [plan] => plan
  | branches =>
      match branches.mapM ranges? with
      | some sets => ofRanges (CodeRanges.normalize sets.flatten)
      | none => .alternative branches

/-- How many items two sequences have in common at their beginnings. -/
def commonLength : List Plan → List Plan → Nat
  | left :: lefts, right :: rights => if left.isSame right then commonLength lefts rights + 1 else 0
  | _, _ => 0

/-- The items of a plan that is a sequence. -/
def sequence? : Plan → Option (List Plan)
  | .sequence items => some items
  | _ => none

/-- One of the plans; what all of them begin with is taken out. -/
def alternativeAll (plans : List Plan) : Plan :=
  let branches := plans.flatMap branches
  match choice branches, branches.mapM sequence? with
  | .alternative branches, some (first :: rest) =>
      let common := rest.foldl (fun common items => min common (commonLength first items)) first.length
      if common = 0 then .alternative branches
      else
        let remainders := (first :: rest).map fun items => sequenceAll (items.drop common)
        sequenceAll (first.take common ++ [choice (remainders.flatMap Plan.branches)])
  | plan, _ => plan

/--
A repetition of the body. One that can only take no characters is not taken more
than once, and a repetition that is always taken just once is its body.
-/
def repeated (least : Nat) (most : Option Nat) (isLazy : Bool) (body : Plan) : Plan :=
  let isVoid := body.maximumLength == some 0
  let least := if isVoid then min least 1 else least
  let most := if isVoid then some (min (most.getD 1) 1) else most
  if most = some 0 then .empty
  else if least = 1 && most = some 1 then body
  else .repetition least most isLazy body

mutual

/-- Whether every match begins where the condition holds. -/
def opensWith (condition : Assertion) : Plan → Bool
  | .assertion other => other = condition
  | .repetition least _ _ body => least != 0 && body.opensWith condition
  | .capture _ body => body.opensWith condition
  | .sequence items => someOpensWith condition items
  | .alternative branches => allOpenWith condition branches
  | _ => false

/-- Whether an item opens with the condition, up to the first one that takes characters. -/
def someOpensWith (condition : Assertion) : List Plan → Bool
  | [] => false
  | item :: rest =>
      item.opensWith condition ||
        (item.maximumLength == some 0 && someOpensWith condition rest)

def allOpenWith (condition : Assertion) : List Plan → Bool
  | [] => true
  | branch :: rest => branch.opensWith condition && allOpenWith condition rest

end

mutual

/-- The plan with its parts in the order in which they are met from the end of the text. -/
def mirror : Plan → Plan
  | .empty => .empty
  | .text characters => .text characters.reverse
  | .set ranges => .set ranges
  | .assertion condition => .assertion condition
  | .repetition least most isLazy body => .repetition least most isLazy body.mirror
  | .capture index body => .capture index body.mirror
  | .sequence items => .sequence (mirrorOnto [] items)
  | .alternative branches => .alternative (mirrorOnto [] branches).reverse

/-- The mirrored plans in front of others, the last one first. -/
def mirrorOnto (done : List Plan) : List Plan → List Plan
  | [] => done
  | plan :: rest => mirrorOnto (plan.mirror :: done) rest

end

end Plan

end Pattern

end Precommit
