/-!
# Hexadecimal numbers

The values of hexadecimal digits, and characters written as code points in them.
-/

namespace Precommit

namespace Text

def hexDigit? (character : Char) : Option Nat :=
  if '0' ≤ character && character ≤ '9' then some (character.toNat - '0'.toNat)
  else if 'a' ≤ character && character ≤ 'f' then some (character.toNat - 'a'.toNat + 10)
  else if 'A' ≤ character && character ≤ 'F' then some (character.toNat - 'A'.toNat + 10)
  else none

/-- The character whose code point is written in hexadecimal digits. -/
def scalar? (digits : List Char) : Option Char :=
  match digits.mapM hexDigit? with
  | none => none
  | some [] => none
  | some values =>
      let code := values.foldl (fun code value => code * 16 + value) 0
      if code.isValidChar then some (Char.ofNat code) else none

end Text

end Precommit
