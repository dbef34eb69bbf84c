import Precommit.Pattern.Bracket
import Precommit.Pattern.Expression

/-!
# Reading pattern texts

A pattern text is read from left to right. The `Reader` holds the groups that are
still open, the flags in force and the names given to groups; `Reader.next?` takes it
over the part that begins with a character. There is no result when the text is not
a pattern, or one that is nested too deeply.

Flags hold from where they are set to the end of the enclosing group, across its
alternatives.
-/

namespace Precommit

namespace Pattern

/-- A group that is still open; the text itself is the outermost one. -/
structure OpenGroup where
  /-- The flags to return to after the group. -/
  outer : Flags
  /-- The number of the group, if it is kept track of. -/
  index : Option Nat := none
  /-- The alternatives before the current one, the last one first. -/
  branches : List Expression := []
  /-- The parts of the current alternative, the last one first. -/
  parts : List Expression := []

namespace OpenGroup

def push (group : OpenGroup) (part : Expression) : OpenGroup :=
  { group with parts := part :: group.parts }

/-- Begin another alternative. -/
def branch (group : OpenGroup) : OpenGroup :=
  { group with
    branches := .ofItems group.parts.reverse :: group.branches
    parts := [] }

/-- What the group holds as read so far. -/
def content (group : OpenGroup) : Expression :=
  .ofBranches group.branch.branches.reverse

end OpenGroup

/-- The state of reading a pattern text. -/
structure Reader where
  flags : Flags
  /-- The innermost open group. -/
  group : OpenGroup
  /-- The groups around it, from the inside out. -/
  around : List OpenGroup := []
  /-- The group names used so far. -/
  names : List (List Char) := []
  /-- The number of groups that are kept track of. -/
  captures : Nat := 0

/-- The number that is written in decimal digits, with white space around it. -/
def readNumber? (text : List Char) : Option Nat :=
  let digits := ((text.dropWhile Unicode.isBlank).reverse.dropWhile Unicode.isBlank).reverse
  if !digits.isEmpty && digits.all Char.isDigit then
    let value := digits.foldl (fun value digit => value * 10 + (digit.toNat - '0'.toNat)) 0
    if value < 0x100000000 then some value else none
  else none

/-- The bounds written in the braces of a count. -/
def readCount? (text : List Char) : Option (Nat × Option Nat) :=
  let least := text.takeWhile (· != ',')
  match text.drop least.length with
  | [] => (readNumber? least).map fun count => (count, some count)
  | [_] => (readNumber? least).map fun count => (count, none)
  | _ :: most => do
      let least ← readNumber? least
      let most ← readNumber? most
      if least ≤ most then pure (least, some most) else none

def isGroupName (name : List Char) : Bool :=
  match name with
  | [] => false
  | initial :: rest =>
      (initial == '_' || CharSet.alphabetic.contains initial) &&
        rest.all fun character =>
          character == '_' || character == '.' || character == '[' || character == ']' ||
            CharSet.alphabetic.contains character || CharSet.number.contains character

namespace Reader

/-- Begin to read under the given flags. -/
def start (flags : Flags) : Reader where
  flags := flags
  group := { outer := flags }

def push (reader : Reader) (part : Expression) : Reader :=
  { reader with group := reader.group.push part }

/-- Add one character of a set. -/
def pushSet (reader : Reader) (set : CharSet) : Reader :=
  reader.push (.set 0 set)

/-- Begin another alternative. -/
def branch (reader : Reader) : Reader :=
  { reader with group := reader.group.branch }

/--
Replace the last part by a repetition of it; `marked` says whether a question mark
follows.
-/
def repeat? (reader : Reader) (least : Nat) (most : Option Nat) (marked : Bool) :
    Option Reader :=
  match reader.group.parts with
  | [] => none
  | .switch :: _ => none
  | part :: parts =>
      let part := .repetition least most (marked != reader.flags.isLazy) part
      some { reader with group := { reader.group with parts := part :: parts } }

/-- Repeat the last part, with a question mark that may follow at once. -/
def repeatMarked? (reader : Reader) (least : Nat) (most : Option Nat) (rest : List Char) :
    Option (Reader × Nat) :=
  let marked := rest.head? == some '?'
  (reader.repeat? least most marked).map fun reader => (reader, marked.toNat)

/-- Repeat the last part as often as the count after an opening brace says. -/
def readCounted? (reader : Reader) (rest : List Char) : Option (Reader × Nat) := do
  let (count, used) ← readBraced? reader.flags.verbose rest
  let (least, most) ← readCount? count
  let skipped := gap reader.flags.verbose (rest.drop used)
  let (reader, mark) ← reader.repeatMarked? least most (rest.drop (used + skipped))
  pure (reader, used + skipped + mark)

/-- Open a group whose content is read under the given flags. -/
def openGroup (reader : Reader) (index : Option Nat) (flags : Flags) : Reader :=
  { reader with
    flags := flags
    group := { outer := reader.flags, index := index }
    around := reader.group :: reader.around }

/-- Open a group that is kept track of. -/
def openCapture (reader : Reader) : Reader :=
  { reader with captures := reader.captures + 1 }.openGroup (some (reader.captures + 1)) reader.flags

def closeGroup? (reader : Reader) : Option Reader :=
  match reader.around with
  | [] => none
  | group :: around =>
      some
        { reader with
          flags := reader.group.outer
          group := group.push (.group reader.group.index reader.group.content)
          around := around }

/-- Open the group with a name that ends at an angle bracket. -/
def readName? (reader : Reader) (text : List Char) : Option (Reader × Nat) :=
  let name := text.takeWhile (· != '>')
  if name.length < text.length && isGroupName name && !reader.names.contains name then
    some ({ reader with names := name :: reader.names }.openCapture, name.length + 1)
  else none

/-- Switch flags for the rest of the group or for a new one. -/
def readFlags? (reader : Reader) (text : List Char) : Option (Reader × Nat) :=
  let letters := text.takeWhile fun character => character != ')' && character != ':'
  let flags? := reader.flags.setAll? true letters
  match text.drop letters.length with
  | [] => none
  | ending :: _ =>
      if ending == ':' then
        flags?.map fun flags => (reader.openGroup none flags, letters.length + 1)
      else if letters.isEmpty then none
      else
        flags?.map fun flags => ({ reader with flags := flags }.push .switch, letters.length + 1)

/-- The beginning of a group, after its opening parenthesis. -/
def readOpening? (reader : Reader) (rest : List Char) : Option (Reader × Nat) :=
  let skipped := gap reader.flags.verbose rest
  match rest.drop skipped with
  | '?' :: 'P' :: '<' :: name =>
      (reader.readName? name).map fun (reader, used) => (reader, skipped + 3 + used)
  | '?' :: '<' :: name =>
      (reader.readName? name).map fun (reader, used) => (reader, skipped + 2 + used)
  | '?' :: flags =>
      (reader.readFlags? flags).map fun (reader, used) => (reader, skipped + 1 + used)
  | _ => some (reader.openCapture, skipped)

/-- Add what a symbol stands for. -/
def pushSymbol? (reader : Reader) (symbol : Symbol) : Option Reader :=
  match symbol with
  | .literal character isByte => (reader.flags.literal? character isByte).map reader.pushSet
  | .shorthand kind negated => (reader.flags.shorthand? kind negated).map reader.pushSet
  | .property set negated => (reader.flags.property? set negated).map reader.pushSet
  | .landmark kind => some (reader.push (.assertion (reader.flags.landmark kind)))

/--
The state after the part that begins with a character, and how much of the text after
that character belongs to it.
-/
def next? (reader : Reader) (character : Char) (rest : List Char) : Option (Reader × Nat) :=
  if reader.flags.verbose && Unicode.isBlank character then some (reader, 0)
  else if reader.flags.verbose && character == '#' then some (reader, gapFrom true rest)
  else
    match character with
    | '(' => reader.readOpening? rest
    | ')' => reader.closeGroup?.map fun reader => (reader, 0)
    | '|' => some (reader.branch, 0)
    | '[' =>
        (Bracket.read? reader.flags rest).map fun (nested, used) =>
          (reader.push (.set nested.nesting nested.set), used)
    | '*' => reader.repeatMarked? 0 none rest
    | '+' => reader.repeatMarked? 1 none rest
    | '?' => reader.repeatMarked? 0 (some 1) rest
    | '{' => reader.readCounted? rest
    | '.' => reader.flags.dot?.map fun set => (reader.pushSet set, 0)
    | '^' => some (reader.push (.assertion reader.flags.startAnchor), 0)
    | '$' => some (reader.push (.assertion reader.flags.endAnchor), 0)
    | _ => do
        let (symbol, used) ← Symbol.read? reader.flags.verbose character rest
        pure (← reader.pushSymbol? symbol, used)

/-- The state after the rest of a text. -/
def readFrom? (reader : Reader) (text : List Char) : Option Reader :=
  match text with
  | [] => some reader
  | character :: rest =>
      match reader.next? character rest with
      | none => none
      | some (reader, used) => readFrom? reader (rest.drop used)
termination_by text.length
decreasing_by
  simp only [List.length_cons, List.length_drop]
  omega

end Reader

namespace Expression

/-- How deeply a pattern text may be nested. -/
def depthLimit : Nat := 250

/-- Read a pattern text under the given flags; everything opened has to be closed again. -/
def parse? (flags : Flags) (text : List Char) : Option Expression :=
  match (Reader.start flags).readFrom? text with
  | some { group := outermost, around := [], .. } =>
      if outermost.content.depth ≤ depthLimit then some outermost.content else none
  | _ => none

end Expression

/-- The pattern that a text stands for under the given flags. -/
def parse? (flags : Flags) (text : List Char) : Option Pattern :=
  (Expression.parse? flags text).map Expression.pattern

end Pattern

end Precommit
