import Precommit.Pattern.Plan

/-!
# Expressions

What a pattern text says, part by part: the tree from which the pattern, the plan of
its automata and the depth of nesting are taken.
-/

namespace Precommit

namespace Pattern

/-- The parts of a pattern text. -/
inductive Expression
  | empty
  /-- A change of flags, which stands for nothing and cannot be repeated. -/
  | switch
  /-- One character of a set; `nesting` is that of the class that was written for it. -/
  | set (nesting : Nat) (members : CharSet)
  | assertion (condition : Assertion)
  | repetition (least : Nat) (most : Option Nat) (isLazy : Bool) (body : Expression)
  /-- A group, with its number if it is one that is kept track of. -/
  | group (index : Option Nat) (body : Expression)
  /-- Two or more expressions one after the other. -/
  | sequence (items : List Expression)
  /-- One of two or more expressions. -/
  | alternative (branches : List Expression)

namespace Expression

/-- The expressions one after the other. -/
def ofItems (items : List Expression) : Expression :=
  match items with
  | [] => .empty
  | [item] => item
  | items => .sequence items

/-- One of the expressions. -/
def ofBranches (branches : List Expression) : Expression :=
  match branches with
  | [branch] => branch
  | branches => .alternative branches

mutual

/-- How many groups, repetitions, sequences, alternatives and classes are inside each other. -/
def depth : Expression → Nat
  | .empty => 0
  | .switch => 0
  | .set nesting _ => nesting
  | .assertion _ => 0
  | .repetition _ _ _ body => body.depth + 1
  | .group _ body => body.depth + 1
  | .sequence items => deepest 0 items + 1
  | .alternative branches => deepest 0 branches + 1

/-- The greatest depth of the expressions, and at least the one given. -/
def deepest (least : Nat) : List Expression → Nat
  | [] => least
  | expression :: rest => deepest (max least expression.depth) rest

end

mutual

def pattern : Expression → Pattern
  | .empty => .empty
  | .switch => .empty
  | .set _ members => .char members
  | .assertion condition => .assertion condition
  | .repetition least most _ body => body.pattern.counted least most
  | .group _ body => body.pattern
  | .sequence items => .sequenceAll (patterns [] items)
  | .alternative branches => .alternativeAll (patterns [] branches)

/-- The patterns of the expressions, after those in `done`, the last of which comes first. -/
def patterns (done : List Pattern) : List Expression → List Pattern
  | [] => done.reverse
  | expression :: rest => patterns (expression.pattern :: done) rest

end

mutual

/-- The plan for the automata of the expression. -/
def plan : Expression → Plan
  | .empty => .empty
  | .switch => .empty
  | .set _ members => .ofRanges members.ranges
  | .assertion condition => .assertion condition
  | .repetition least most isLazy body => .repeated least most isLazy body.plan
  | .group none body => body.plan
  | .group (some index) body => .capture index body.plan
  | .sequence items => .sequenceAll (plans [] items)
  | .alternative branches => .alternativeAll (plans [] branches)

/-- The plans of the expressions, after those in `done`, the last of which comes first. -/
def plans (done : List Plan) : List Expression → List Plan
  | [] => done.reverse
  | expression :: rest => plans (expression.plan :: done) rest

end

end Expression

end Pattern

end Precommit
