import Precommit.Finding

/-!
# Reports for programs

The result as a JSON document. Documents are printed with an indentation of two spaces;
the members of an object are printed in the order in which they are given. Strings
escape quotes, backslashes and control characters and nothing else.
-/

namespace Precommit

/-- A JSON document, as far as reports need it. -/
inductive Json
  | boolean (value : Bool)
  | number (value : Nat)
  | string (text : String)
  | array (items : List Json)
  | object (members : List (String × Json))
deriving Repr

namespace Json

/-- The digit of a value below sixteen. -/
def hexDigit (value : Nat) : Char :=
  Char.ofNat (if value < 10 then 0x30 + value else 0x57 + value)

def escapeCharacter (character : Char) : List Char :=
  if character = '"' then ['\\', '"']
  else if character = '\\' then ['\\', '\\']
  else if character = '\x08' then ['\\', 'b']
  else if character = '\t' then ['\\', 't']
  else if character = '\n' then ['\\', 'n']
  else if character = '\x0c' then ['\\', 'f']
  else if character = '\r' then ['\\', 'r']
  else if character.toNat < 0x20 then
    ['\\', 'u', '0', '0', hexDigit (character.toNat / 16), hexDigit (character.toNat % 16)]
  else [character]

/-- A string between its quotes. -/
def quote (text : String) : String :=
  "\"" ++ String.ofList (text.toList.flatMap escapeCharacter) ++ "\""

/-- A line end and the indentation of the next line. -/
def lineBreak (depth : Nat) : String :=
  "\n" ++ String.ofList (List.replicate (2 * depth) ' ')

mutual

/-- A document inside `depth` others. -/
def printAt (depth : Nat) : Json → String
  | .boolean value => if value then "true" else "false"
  | .number value => toString value
  | .string text => quote text
  | .array items =>
      if items.isEmpty then "[]"
      else "[" ++ printItems (depth + 1) items ++ lineBreak depth ++ "]"
  | .object members =>
      if members.isEmpty then "\x7b\x7d"
      else "\x7b" ++ printMembers (depth + 1) members ++ lineBreak depth ++ "\x7d"

/-- The items of an array, each on lines of its own. -/
def printItems (depth : Nat) : List Json → String
  | [] => ""
  | item :: rest =>
      lineBreak depth ++ printAt depth item ++ (if rest.isEmpty then "" else ",") ++
        printItems depth rest

/-- The members of an object, each on lines of its own. -/
def printMembers (depth : Nat) : List (String × Json) → String
  | [] => ""
  | (key, value) :: rest =>
      lineBreak depth ++ quote key ++ ": " ++ printAt depth value ++
        (if rest.isEmpty then "" else ",") ++ printMembers depth rest

end

def print (document : Json) : String :=
  printAt 0 document

end Json

namespace Report

/-- A finding as a document, its members sorted by name. -/
def findingDocument (finding : Finding) : Json :=
  .object
    [("check_id", .string finding.label.id), ("check_name", .string finding.label.name),
      ("detail", .string finding.detail), ("file", .string finding.file),
      ("line", .number finding.line)]

/-- The result as a document, its members sorted by name. -/
def document (result : AuditResult) : Json :=
  .object
    [("files_scanned", .number result.filesScanned), ("passed", .boolean result.passed),
      ("violations", .array (result.findings.map findingDocument))]

def json (result : AuditResult) : String :=
  (document result).print

end Report

end Precommit
