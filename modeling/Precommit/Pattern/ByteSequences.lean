import Precommit.Text.Utf8

/-!
# Ranges of characters as sequences of bytes

The encodings of the characters in a range form a union of products: sequences of
byte ranges, of which each stands for all choices of one byte from every range. A
range is cut until the encodings of its two ends span such a product.
-/

namespace Precommit

/-- Bytes from a first to a last one. -/
structure ByteRange where
  first : UInt8
  last : UInt8
deriving DecidableEq, Repr

namespace ByteRange

/-- The last code points with encodings of one, two and three bytes. -/
def lengthEnds : List Nat := [0x7F, 0x7FF, 0xFFFF]

/--
Where to cut a range whose encodings have one length, as the last code point of the
lower part: its ends have to agree in all but the last `count` bytes, or these bytes
have to run through all of their values.
-/
def alignedCut? (first last : Nat) : List Nat → Option Nat
  | [] => none
  | count :: counts =>
      let block := 64 ^ count
      if first / block = last / block then alignedCut? first last counts
      else if first % block ≠ 0 then some (first / block * block + (block - 1))
      else if last % block ≠ block - 1 then some (last / block * block - 1)
      else alignedCut? first last counts

/-- The last code point of the lower part, if the range is no single product. -/
def cut? (first last : Nat) : Option Nat :=
  if first ≤ 0xD7FF && 0xE000 ≤ last then some 0xD7FF
  else
    match lengthEnds.find? fun bound => first ≤ bound && bound < last with
    | some bound => some bound
    | none => if last ≤ 0x7F then none else alignedCut? first last [1, 2, 3]

/-- The product of the encodings of two code points. -/
def product (first last : Nat) : List ByteRange :=
  List.zipWith ByteRange.mk (Utf8.encode [Char.ofNat first]) (Utf8.encode [Char.ofNat last])

/-- The code point of the character after the one at a code point. -/
def following (code : Nat) : Nat :=
  if code = 0xD7FF then 0xE000 else code + 1

theorem lt_following (code : Nat) : code < following code := by
  unfold following
  split <;> omega

/-- The products for the characters in a range, in increasing order. -/
def sequences (first last : Nat) : List (List ByteRange) :=
  match cut? first last with
  | some lower =>
      if first ≤ lower ∧ following lower ≤ last then
        sequences first lower ++ sequences (following lower) last
      else [product first last]
  | none => [product first last]
termination_by last - first
decreasing_by
  all_goals
    have := lt_following lower
    omega

end ByteRange

end Precommit
