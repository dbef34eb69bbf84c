import Precommit.Glob.Basic

/-!
# Reading glob texts

Globs are read from left to right. Alternatives in braces are kept on a stack of
open choices; the parts of the current alternative are collected in reverse. Two
stars count as a component of their own when a slash or the beginning stands
before them and a slash or the end after them; the slash before them then belongs
to the component and is taken back.
-/

namespace Precommit

namespace Glob

structure OpenChoice where
  /-- The parts before the choice, the last one first. -/
  before : List GlobPart
  /-- The alternatives before the current one, the last one first. -/
  branches : List (List GlobPart)

/-- The state of reading a glob text. -/
structure Reader where
  /-- The open choices, from the inside out. -/
  choices : List OpenChoice := []
  /-- The parts of the current alternative, the last one first. -/
  parts : List GlobPart := []
  /-- The character just before the place reached. -/
  previous : Option Char := none

namespace Reader

def push (reader : Reader) (part : GlobPart) (previous : Char) : Reader :=
  { reader with parts := part :: reader.parts, previous := some previous }

/-- Two stars without a role of their own. -/
def pushRuns (reader : Reader) : Reader :=
  (reader.push .anyRun '*').push .anyRun '*'

def openChoice (reader : Reader) : Reader where
  choices := ⟨reader.parts, []⟩ :: reader.choices
  parts := []
  previous := some '{'

/-- Begin another alternative of the innermost choice; elsewhere a comma is a character. -/
def comma (reader : Reader) : Reader :=
  match reader.choices with
  | [] => reader.push (.literal ',') ','
  | ⟨before, branches⟩ :: around =>
      { choices := ⟨before, reader.parts :: branches⟩ :: around
        parts := []
        previous := some ',' }

def closeChoice? (reader : Reader) : Option Reader :=
  match reader.choices with
  | [] => none
  | ⟨before, branches⟩ :: around =>
      let branches := (reader.parts :: branches).reverse.map List.reverse
      some
        { choices := around
          parts := .ofBranches branches :: before
          previous := some '}' }

/--
Two stars before `following`. The second component says whether a slash that follows
is part of the component.
-/
def doubleStar (reader : Reader) (following : Option Char) : Reader × Bool :=
  let takesSlash := following == some '/'
  let after := if takesSlash then '/' else '*'
  let inChoice := !reader.choices.isEmpty
  match reader.parts with
  | [] =>
      if following.all (· == '/') then (reader.push .leading after, takesSlash)
      else (reader.pushRuns, false)
  | last :: parts =>
      let opens := reader.previous == some '/' ||
        (inChoice && (reader.previous == some ',' || reader.previous == some '{'))
      let ends := following.isNone ||
        (inChoice && (following == some ',' || following == some '}'))
      if opens && (ends || takesSlash) then
        let part : GlobPart :=
          match last with
          | .leading => .leading
          | .trailing => .trailing
          | _ => if ends then .trailing else .middle
        ({ reader with parts := parts }.push part after, takesSlash)
      else (reader.pushRuns, false)

end Reader

/-- The state of reading a class in brackets. -/
structure ClassReader where
  /-- The ranges so far, the last one first. -/
  ranges : List (Char × Char) := []
  /-- Whether a hyphen asks for the end of the last range. -/
  hyphen : Bool := false

namespace ClassReader

/-- The state after one more member; a range that runs backwards is refused. -/
def step? (reader : ClassReader) (character : Char) : Option ClassReader :=
  match reader.ranges with
  | [] => some { ranges := [(character, character)] }
  | (first, last) :: ranges =>
      if reader.hyphen then
        if first ≤ character then some { ranges := (first, character) :: ranges } else none
      else if character == '-' then some { reader with hyphen := true }
      else some { ranges := (character, character) :: (first, last) :: ranges }

/-- The ranges of the class; a hyphen before the closing bracket is a member. -/
def finish (reader : ClassReader) : List (Char × Char) :=
  (if reader.hyphen then ('-', '-') :: reader.ranges else reader.ranges).reverse

/--
The ranges up to the closing bracket, and the number of characters used with it. A
bracket that comes first is a member.
-/
def read? (reader : ClassReader) : List Char → Option (List (Char × Char) × Nat)
  | [] => none
  | character :: rest =>
      if character == ']' && !reader.ranges.isEmpty then some (reader.finish, 1)
      else
        (reader.step? character).bind fun reader =>
          (reader.read? rest).map fun (ranges, used) => (ranges, used + 1)

end ClassReader

/-- The class after an opening bracket, and the number of characters used. -/
def readClass? (text : List Char) : Option (GlobPart × Nat) :=
  let negated := text.head? == some '!' || text.head? == some '^'
  (ClassReader.read? {} (text.drop negated.toNat)).map fun (ranges, used) =>
    (.oneOf negated ranges, used + negated.toNat)

namespace Reader

/-- Read the rest of a glob text. -/
def readFrom (reader : Reader) : List Char → Option Reader
  | [] => some reader
  | '?' :: rest => readFrom (reader.push .anyByte '?') rest
  | '*' :: '*' :: rest =>
      let (reader, takesSlash) := reader.doubleStar rest.head?
      readFrom reader (rest.drop takesSlash.toNat)
  | '*' :: rest => readFrom (reader.push .anyRun '*') rest
  | '[' :: rest =>
      match readClass? rest with
      | none => none
      | some (part, used) => readFrom (reader.push part ']') (rest.drop used)
  | '{' :: rest => readFrom reader.openChoice rest
  | '}' :: rest =>
      match reader.closeChoice? with
      | none => none
      | some reader => readFrom reader rest
  | ',' :: rest => readFrom reader.comma rest
  | '\\' :: character :: rest => readFrom (reader.push (.literal character) character) rest
  | '\\' :: [] => none
  | character :: rest => readFrom (reader.push (.literal character) character) rest
termination_by text => text.length
decreasing_by
  all_goals simp
  all_goals omega

end Reader

/-- Read a glob text. -/
def parse? (text : List Char) : Option Glob :=
  match Reader.readFrom {} text with
  | some ⟨[], parts, _⟩ => some (.ofParts parts.reverse)
  | _ => none

end Glob

end Precommit
