/-!
# Literal texts in patterns

Characters with a role in pattern texts stand for themselves after a backslash.
-/

namespace Precommit

namespace Pattern

/-- The characters that have a role in pattern texts and lose it after a backslash. -/
def metaCharacters : List Char :=
  ['\\', '.', '+', '*', '?', '(', ')', '|', '[', ']', '{', '}', '^', '$', '#', '&', '-', '~']

/-- A pattern text that matches exactly the given text. -/
def escape (text : List Char) : List Char :=
  text.flatMap fun character =>
    if metaCharacters.contains character then ['\\', character] else [character]

end Pattern

end Precommit
