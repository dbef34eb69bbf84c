/-!
# White space

The characters with the Unicode property `White_Space`. Trimming and the pattern
class `\s` both rest on this one predicate. Control separators U+001C to U+001F,
the zero width space U+200B and the byte order mark U+FEFF are not blank.
-/

namespace Precommit

namespace Unicode

/-- The ranges of characters with the property `White_Space`. -/
def blankRanges : List (Nat × Nat) :=
  [(0x09, 0x0D), (0x20, 0x20), (0x85, 0x85), (0xA0, 0xA0), (0x1680, 0x1680), (0x2000, 0x200A),
    (0x2028, 0x2029), (0x202F, 0x202F), (0x205F, 0x205F), (0x3000, 0x3000)]

/-- Whether the character has the property `White_Space`. -/
def isBlank (character : Char) : Bool :=
  blankRanges.any fun (first, last) => first ≤ character.toNat && character.toNat ≤ last

end Unicode

end Precommit
