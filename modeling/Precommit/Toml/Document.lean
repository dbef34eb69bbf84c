import Precommit.Toml.Text
import Precommit.Toml.Number

/-!
# Reading TOML documents

A document is a sequence of lines, each of which is blank, sets a key or is a header
that says to which table the following keys belong. The readers of nested values
take some fuel; as every step uses at least one character, one more than the length
of the text is enough.
-/

namespace Precommit

namespace Toml

/-- How many arrays and inline tables may be inside each other. -/
def nestingLimit : Nat := 80

mutual

/-- A value of any kind, which stands inside of `nesting` arrays and inline tables. -/
def readValue? (fuel nesting : Nat) (text : List Char) : Option (Value × List Char) :=
  match fuel with
  | 0 => none
  | fuel + 1 =>
      match text with
      | '"' :: _ => (readString? text).map fun (read, rest) => (.string read, rest)
      | '\'' :: _ => (readString? text).map fun (read, rest) => (.string read, rest)
      | '[' :: rest =>
          if nesting < nestingLimit then
            (readItems? fuel (nesting + 1) rest).map fun (items, rest) => (.array items, rest)
          else none
      | '{' :: rest =>
          if nesting < nestingLimit then
            (readEntries? fuel (nesting + 1) [] rest).map fun (table, rest) =>
              (.table .inline table, rest)
          else none
      | _ => Scalar.read? text

/-- The rest of an array, after its opening bracket or a comma. -/
def readItems? (fuel nesting : Nat) (text : List Char) : Option (List Value × List Char) :=
  match fuel with
  | 0 => none
  | fuel + 1 =>
      match skipBlankLines text with
      | ']' :: rest => some ([], rest)
      | text =>
          match readValue? fuel nesting text with
          | none => none
          | some (value, rest) =>
              match skipBlankLines rest with
              | ']' :: rest => some ([value], rest)
              | ',' :: rest =>
                  (readItems? fuel nesting rest).map fun (items, rest) => (value :: items, rest)
              | _ => none

/--
The rest of an inline table, after its opening brace or a comma, given the entries
before it.
-/
def readEntries? (fuel nesting : Nat) (table : Table) (text : List Char) :
    Option (Table × List Char) :=
  match fuel with
  | 0 => none
  | fuel + 1 =>
      match skipBlankLines text with
      | '}' :: rest => some (table, rest)
      | text =>
          match readKey? keyLimit text with
          | none => none
          | some (path, rest) =>
              match skipBlankLines rest with
              | '=' :: rest =>
                  match readValue? fuel nesting (skipBlankLines rest) with
                  | none => none
                  | some (value, rest) =>
                      match table.assign? path value, skipBlankLines rest with
                      | some table, '}' :: rest => some (table, rest)
                      | some table, ',' :: rest => readEntries? fuel nesting table rest
                      | _, _ => none
              | _ => none

end

/-- The path of a header, after its opening brackets, up to its closing brackets. -/
def readHeader? (closing : List Char) (text : List Char) : Option (List String × List Char) :=
  match readKey? keyLimit (skipSpaces text) with
  | some (path, rest) =>
      if closing.isPrefixOf rest then
        (endLine? (rest.drop closing.length)).map fun rest => (path, rest)
      else none
  | none => none

/-- The rest of a document, given the last header and the table so far. -/
def readLines? (fuel : Nat) (header : List String) (table : Table) (text : List Char) :
    Option Table :=
  match fuel with
  | 0 => none
  | fuel + 1 =>
      match skipBlankLines text with
      | [] => some table
      | '[' :: '[' :: rest =>
          match readHeader? [']', ']'] rest with
          | none => none
          | some (path, rest) =>
              (table.append? path).bind fun table => readLines? fuel path table rest
      | '[' :: rest =>
          match readHeader? [']'] rest with
          | none => none
          | some (path, rest) =>
              (table.define? path).bind fun table => readLines? fuel path table rest
      | text =>
          match readKey? keyLimit text with
          | some (path, '=' :: rest) => do
              let (value, rest) ← readValue? (rest.length + 1) 0 (skipSpaces rest)
              let rest ← endLine? rest
              let table ← table.assignUnder? header path value
              readLines? fuel header table rest
          | _ => none

/-- Read a document; a byte order mark at its start is not part of it. -/
def parse? (text : List Char) : Option Table :=
  let text :=
    match text with
    | '\ufeff' :: rest => rest
    | _ => text
  readLines? (text.length + 1) [] [] text

end Toml

end Precommit
