import Precommit.Pattern.Footprint
import Precommit.Pattern.Parser

/-!
# Patterns of a limited size

A pattern text is taken only if the automata for it keep to a limit. Without a limit
every pattern text is taken.
-/

namespace Precommit

namespace Pattern

/-- The room that the automata of a pattern may take, in bytes. -/
def sizeLimit : Nat := 10 * 1024 * 1024

/-- Whether the automata for the expression keep to the limit, if there is one. -/
def Expression.fits (limit : Option Nat) (expression : Expression) : Bool :=
  limit.all fun limit => expression.plan.fits limit

/-- The pattern that a text stands for under the given flags, if it is not too large. -/
def compile? (limit : Option Nat) (flags : Flags) (text : List Char) : Option Pattern :=
  ((Expression.parse? flags text).filter (·.fits limit)).map Expression.pattern

theorem compile?_none (flags : Flags) (text : List Char) :
    compile? none flags text = parse? flags text := by
  unfold compile? parse?
  cases Expression.parse? flags text <;> simp [Expression.fits]

theorem parse?_of_compile? {limit : Option Nat} {flags : Flags} {text : List Char}
    {pattern : Pattern} (compiled : compile? limit flags text = some pattern) :
    parse? flags text = some pattern := by
  obtain ⟨expression, accepted, rfl⟩ := Option.map_eq_some_iff.1 compiled
  simp [parse?, (Option.filter_eq_some_iff.1 accepted).1]

/-- What can be read within a limit can be read without one. -/
theorem compile?_none_of_compile? {limit : Option Nat} {flags : Flags} {text : List Char}
    {pattern : Pattern} (compiled : compile? limit flags text = some pattern) :
    compile? none flags text = some pattern :=
  (compile?_none flags text).trans (parse?_of_compile? compiled)

end Pattern

end Precommit
