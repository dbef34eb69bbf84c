import Precommit.Text.Hexadecimal

/-!
# Strings, keys and blanks of TOML

Every reader takes the text at some place and gives what it read together with the
text that follows, or nothing if the text does not begin with it.
-/

namespace Precommit

namespace Toml

/-- Whether the character may stand in a comment or a string on one line. -/
def isTextCharacter (character : Char) : Bool :=
  character == '\t' || (0x20 ≤ character.toNat && character.toNat != 0x7F)

def isSpace (character : Char) : Bool :=
  character == ' ' || character == '\t'

def skipSpaces (text : List Char) : List Char :=
  text.dropWhile isSpace

/-- Drop a comment up to the end of its line. -/
def skipComment (text : List Char) : List Char :=
  match text with
  | '#' :: rest => rest.dropWhile isTextCharacter
  | _ => text

/-- Drop spaces, comments and line ends. -/
def skipBlankLines (text : List Char) : List Char :=
  match text with
  | ' ' :: rest => skipBlankLines rest
  | '\t' :: rest => skipBlankLines rest
  | '\n' :: rest => skipBlankLines rest
  | '\r' :: '\n' :: rest => skipBlankLines rest
  | '#' :: rest => skipBlankLines (rest.dropWhile isTextCharacter)
  | _ => text
termination_by text.length
decreasing_by
  · simp
  · simp
  · simp
  · simp only [List.length_cons]; omega
  · exact Nat.lt_succ_of_le (List.dropWhile_sublist isTextCharacter).length_le

/-- Drop the rest of a line, which may hold only spaces and a comment. -/
def endLine? (text : List Char) : Option (List Char) :=
  match skipComment (skipSpaces text) with
  | [] => some []
  | '\n' :: rest => some rest
  | '\r' :: '\n' :: rest => some rest
  | _ => none

/-- The character of an escape sequence after the backslash, and the number of characters used. -/
def readEscape? (text : List Char) : Option (Char × Nat) :=
  match text with
  | 'b' :: _ => some ('\x08', 1)
  | 't' :: _ => some ('\t', 1)
  | 'n' :: _ => some ('\n', 1)
  | 'e' :: _ => some ('\x1b', 1)
  | 'f' :: _ => some ('\x0c', 1)
  | 'r' :: _ => some ('\r', 1)
  | '"' :: _ => some ('"', 1)
  | '\\' :: _ => some ('\\', 1)
  | 'x' :: rest =>
      if 2 ≤ rest.length then (Text.scalar? (rest.take 2)).map fun character => (character, 3)
      else none
  | 'u' :: rest =>
      if 4 ≤ rest.length then (Text.scalar? (rest.take 4)).map fun character => (character, 5)
      else none
  | 'U' :: rest =>
      if 8 ≤ rest.length then (Text.scalar? (rest.take 8)).map fun character => (character, 9)
      else none
  | _ => none

/-- The rest of a basic string, after its opening quote. -/
def readBasic? (text : List Char) : Option (List Char × List Char) :=
  match text with
  | [] => none
  | '"' :: rest => some ([], rest)
  | '\\' :: rest =>
      match readEscape? rest with
      | none => none
      | some (character, used) =>
          (readBasic? (rest.drop used)).map fun (read, rest) => (character :: read, rest)
  | character :: rest =>
      if isTextCharacter character then
        (readBasic? rest).map fun (read, rest) => (character :: read, rest)
      else none
termination_by text.length
decreasing_by
  · simp only [List.length_drop, List.length_cons]
    omega
  · simp

/-- The rest of a literal string, after its opening apostrophe. -/
def readLiteral? (text : List Char) : Option (List Char × List Char) :=
  match text with
  | [] => none
  | '\'' :: rest => some ([], rest)
  | character :: rest =>
      if isTextCharacter character then
        (readLiteral? rest).map fun (read, rest) => (character :: read, rest)
      else none

/-- The line end at the beginning of a text, if there is one. -/
def skipLineEnd (text : List Char) : List Char :=
  match text with
  | '\n' :: rest => rest
  | '\r' :: '\n' :: rest => rest
  | _ => text

/-- Drop spaces and line ends. -/
def skipWhite (text : List Char) : List Char :=
  match text with
  | ' ' :: rest => skipWhite rest
  | '\t' :: rest => skipWhite rest
  | '\n' :: rest => skipWhite rest
  | '\r' :: '\n' :: rest => skipWhite rest
  | _ => text

/-- Drop spaces and line ends, if there is a line end before anything else. -/
def continueLine? (text : List Char) : Option (List Char) :=
  match skipSpaces text with
  | '\n' :: rest => some (skipWhite rest)
  | '\r' :: '\n' :: rest => some (skipWhite rest)
  | _ => none

/--
The end of a string of several lines, at a run of delimiters: of up to five of them
the last three close the string and the others belong to it.
-/
def closing? (delimiter : Char) (text : List Char) : Option (List Char × List Char) :=
  let count := min (text.takeWhile (· == delimiter)).length 5
  if 3 ≤ count then some (List.replicate (count - 3) delimiter, text.drop count) else none

/-- The rest of a basic string of several lines, after its opening quotes. -/
def readBasicLines? (fuel : Nat) (text : List Char) : Option (List Char × List Char) :=
  match fuel with
  | 0 => none
  | fuel + 1 =>
      match closing? '"' text, text with
      | some closed, _ => some closed
      | none, [] => none
      | none, '\\' :: rest =>
          match continueLine? rest, readEscape? rest with
          | some rest, _ => readBasicLines? fuel rest
          | none, some (character, used) =>
              (readBasicLines? fuel (rest.drop used)).map fun (read, rest) =>
                (character :: read, rest)
          | none, none => none
      | none, '\r' :: '\n' :: rest =>
          (readBasicLines? fuel rest).map fun (read, rest) => ('\r' :: '\n' :: read, rest)
      | none, character :: rest =>
          if isTextCharacter character || character == '\n' then
            (readBasicLines? fuel rest).map fun (read, rest) => (character :: read, rest)
          else none

/-- The rest of a literal string of several lines, after its opening apostrophes. -/
def readLiteralLines? (text : List Char) : Option (List Char × List Char) :=
  match closing? '\'' text, text with
  | some closed, _ => some closed
  | none, [] => none
  | none, '\r' :: '\n' :: rest =>
      (readLiteralLines? rest).map fun (read, rest) => ('\r' :: '\n' :: read, rest)
  | none, character :: rest =>
      if isTextCharacter character || character == '\n' then
        (readLiteralLines? rest).map fun (read, rest) => (character :: read, rest)
      else none

/-- A string of any kind. -/
def readString? (text : List Char) : Option (String × List Char) :=
  let read :=
    match text with
    | '"' :: '"' :: '"' :: rest =>
        readBasicLines? (rest.length + 1) (skipLineEnd rest)
    | '"' :: rest => readBasic? rest
    | '\'' :: '\'' :: '\'' :: rest => readLiteralLines? (skipLineEnd rest)
    | '\'' :: rest => readLiteral? rest
    | _ => none
  read.map fun (read, rest) => (String.ofList read, rest)

/-- Whether the character may stand in a key without quotes. -/
def isBareKeyCharacter (character : Char) : Bool :=
  character.isAlphanum || character == '_' || character == '-'

/-- One component of a key. -/
def readSimpleKey? (text : List Char) : Option (String × List Char) :=
  match text with
  | '"' :: rest => (readBasic? rest).map fun (read, rest) => (String.ofList read, rest)
  | '\'' :: rest => (readLiteral? rest).map fun (read, rest) => (String.ofList read, rest)
  | _ =>
      match text.takeWhile isBareKeyCharacter with
      | [] => none
      | key => some (String.ofList key, text.dropWhile isBareKeyCharacter)

/-- How many components a key may have. -/
def keyLimit : Nat := 80

/-- A key of at most `limit` components, as the list of its components. -/
def readKey? (limit : Nat) (text : List Char) : Option (List String × List Char) :=
  match limit with
  | 0 => none
  | limit + 1 =>
      match readSimpleKey? text with
      | none => none
      | some (component, rest) =>
          match skipSpaces rest with
          | '.' :: rest =>
              (readKey? limit (skipSpaces rest)).map fun (path, rest) => (component :: path, rest)
          | _ => some ([component], skipSpaces rest)

end Toml

end Precommit
