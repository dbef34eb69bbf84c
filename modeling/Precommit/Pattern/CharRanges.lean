import Precommit.Pattern.CharSet

/-!
# Sets of characters as ranges

The members of a set of characters as ranges of code points in increasing order,
with a gap between any two of them. Membership in a set is decided by
`CharSet.contains`; the ranges say how much room a set takes when it is written out.
-/

namespace Precommit

abbrev CodeRanges := List (Nat × Nat)

namespace CodeRanges

/-- Append a range to ranges in decreasing order, and join it with the last one if they touch. -/
def extend (ranges : CodeRanges) (range : Nat × Nat) : CodeRanges :=
  match ranges with
  | [] => [range]
  | (first, last) :: rest =>
      if range.1 ≤ last + 1 then (first, max last range.2) :: rest else range :: ranges

/-- Put a range before the first one of ordered ranges that does not begin before it. -/
def insert (range : Nat × Nat) (ranges : CodeRanges) : CodeRanges :=
  match ranges with
  | [] => [range]
  | other :: rest => if range.1 ≤ other.1 then range :: other :: rest else other :: insert range rest

/-- The same code points in increasing order, with a gap between any two ranges. -/
def normalize (ranges : CodeRanges) : CodeRanges :=
  ((ranges.foldr insert []).foldl extend []).reverse

/-- The code points of characters in a range; those of surrogates at its ends are left out. -/
def characters? (first last : Nat) : Option (Nat × Nat) :=
  let first := if 0xD800 ≤ first && first ≤ 0xDFFF then 0xE000 else first
  let last := if 0xD800 ≤ last && last ≤ 0xDFFF then 0xD7FF else last
  if first ≤ last then some (first, last) else none

/-- The characters between normalized ranges, from the code point `start` on. -/
def gapsFrom (start : Nat) : CodeRanges → CodeRanges
  | [] => (characters? start 0x10FFFF).toList
  | (first, last) :: rest =>
      let gaps := gapsFrom (last + 1) rest
      if start < first then (characters? start (first - 1)).toList ++ gaps else gaps

/-- The characters outside of normalized ranges. -/
def complement (ranges : CodeRanges) : CodeRanges :=
  gapsFrom 0 ranges

/-- The code points in the normalized ranges of either side. -/
def union (left right : CodeRanges) : CodeRanges :=
  normalize (left ++ right)

/-- The code points in the normalized ranges of both sides. -/
def intersection (left right : CodeRanges) : CodeRanges :=
  complement (union (complement left) (complement right))

/-- Map all ranges to single code points; for those of ASCII few foldings have to be tried. -/
def image (ranges : CodeRanges) (within : Unicode.FoldRun → Nat → Nat → List Nat) : CodeRanges :=
  ranges.flatMap fun (first, last) =>
    (if last < 0x80 then Unicode.asciiFoldRuns else Unicode.allFoldRuns).flatMap fun run =>
      (within run first last).map fun code => (code, code)

/--
The code points that agree with a member up to case: the members, what they fold to,
and whatever folds to one of these.
-/
def caseless (ranges : CodeRanges) : CodeRanges :=
  let folded := union ranges (ranges.image Unicode.FoldRun.imagesWithin)
  union folded (folded.image Unicode.FoldRun.sourcesWithin)

end CodeRanges

namespace CharSet

/-- The members of the set as normalized ranges. -/
def ranges : CharSet → CodeRanges
  | .range first last => if first ≤ last then [(first.toNat, last.toNat)] else []
  | .blank => Unicode.blankRanges
  | .decimal => Unicode.decimalTable.ranges.toList
  | .word => Unicode.wordTable.ranges.toList
  | .property family position => (family.table position).ranges.toList
  | .complement set => set.ranges.complement
  | .union left right => left.ranges.union right.ranges
  | .intersection left right => left.ranges.intersection right.ranges
  | .caseless set => set.ranges.caseless

end CharSet

end Precommit
