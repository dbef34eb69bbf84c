/-!
# Tables of code point ranges

A character property that covers many scattered code points is kept as a sorted
list of disjoint inclusive ranges and looked up by bisection.
-/

namespace Precommit

namespace Unicode

/-- Disjoint inclusive ranges of code points in increasing order. -/
structure RangeTable where
  ranges : Array (Nat × Nat)

namespace RangeTable

/-- Bisection among the ranges at the positions from `low` up to, but not with, `high`. -/
def search (table : RangeTable) (code low high : Nat) : Bool :=
  if low < high then
    let middle := (low + high) / 2
    match table.ranges[middle]? with
    | none => false
    | some (first, last) =>
        if code < first then table.search code low middle
        else if last < code then table.search code (middle + 1) high
        else true
  else false
termination_by high - low

/-- Whether some range of the table covers the code point. -/
def contains (table : RangeTable) (code : Nat) : Bool :=
  table.search code 0 table.ranges.size

end RangeTable

end Unicode

end Precommit
