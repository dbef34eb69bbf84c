import Precommit.Pattern.Basic
import Precommit.Pattern.Property
import Precommit.Text.Hexadecimal

/-!
# Symbols of pattern texts

A symbol is a single character or an escape sequence. In verbose pattern texts white
space and comments may stand between symbols, and also between the parts of an escape
sequence and of a count; `gap` measures them. Functions that read a part of a text
return how many characters they have used.
-/

namespace Precommit

namespace Pattern

/-- The number of white space characters and characters in comments before something else. -/
def gapFrom (isComment : Bool) : List Char → Nat
  | [] => 0
  | character :: rest =>
      if isComment then gapFrom (character != '\n') rest + 1
      else if Unicode.isBlank character then gapFrom false rest + 1
      else if character == '#' then gapFrom true rest + 1
      else 0

/-- The number of characters to skip, which verbose texts have before anything significant. -/
def gap (isVerbose : Bool) (text : List Char) : Nat :=
  if isVerbose then gapFrom false text else 0

/-- The first significant characters of a text, as many as asked for. -/
def readSome? (isVerbose : Bool) : Nat → List Char → Option (List Char × Nat)
  | 0, _ => some ([], 0)
  | count + 1, text =>
      let skipped := gap isVerbose text
      match text.drop skipped with
      | [] => none
      | character :: rest =>
          (readSome? isVerbose count rest).map fun (read, used) =>
            (character :: read, skipped + 1 + used)

/-- The significant characters up to a closing brace, which is used as well. -/
def readBraced? (isVerbose : Bool) (text : List Char) : Option (List Char × Nat) :=
  let skipped := gap isVerbose text
  match _equation : text.drop skipped with
  | [] => none
  | character :: rest =>
      if character == '}' then some ([], skipped + 1)
      else
        (readBraced? isVerbose rest).map fun (read, used) =>
          (character :: read, skipped + 1 + used)
termination_by text.length
decreasing_by
  have := congrArg List.length _equation
  simp only [List.length_drop, List.length_cons] at this
  omega

/-- The classes with a letter of their own. -/
inductive Shorthand
  | decimal
  | blank
  | word
deriving DecidableEq, Repr

/-- The assertions with an escape sequence of their own. -/
inductive Landmark
  | textStart
  | textEnd
  | wordEdge (position : WordEdge)
deriving DecidableEq, Repr

/-- A unit of a pattern text. -/
inductive Symbol
  /-- A character; `isByte` says whether it was written as a byte of two digits. -/
  | literal (character : Char) (isByte : Bool)
  /-- A class such as `\d`, or the class of all other characters. -/
  | shorthand (kind : Shorthand) (negated : Bool)
  /-- A set that is named by a property, or the class of all other characters. -/
  | property (set : CharSet) (negated : Bool)
  | landmark (kind : Landmark)
deriving DecidableEq, Repr

namespace Symbol

def plain (character : Char) : Symbol :=
  .literal character false

/--
The rest of a code point escape, after its letter: `count` digits, or any number of
digits in braces.
-/
def readScalar? (isVerbose : Bool) (count : Nat) (text : List Char) : Option (Symbol × Nat) :=
  let skipped := gap isVerbose text
  match text.drop skipped with
  | '{' :: rest => do
      let (digits, used) ← readBraced? isVerbose rest
      pure (plain (← Text.scalar? digits), skipped + 1 + used)
  | rest => do
      let (digits, used) ← readSome? isVerbose count rest
      pure (.literal (← Text.scalar? digits) (count = 2), skipped + used)

/-- The rest of a property escape, after its letter: one character, or names in braces. -/
def readProperty? (isVerbose negated : Bool) (text : List Char) : Option (Symbol × Nat) :=
  let skipped := gap isVerbose text
  match text.drop skipped with
  | [] => none
  | '\\' :: _ => none
  | '{' :: rest => do
      let (name, used) ← readBraced? isVerbose rest
      pure (.property (← CharSet.ofProperty? name) negated, skipped + 1 + used)
  | name :: _ => do
      pure (.property (← CharSet.ofName? [name]) negated, skipped + 1)

/-- The word edges that are written in braces after `\b`. -/
def namedEdges : List (List Char × WordEdge) :=
  [("start".toList, .start), ("end".toList, .finish), ("start-half".toList, .halfStart),
    ("end-half".toList, .halfFinish)]

/--
The rest of a `\b` escape. Braces name a special edge, unless they begin with
something else than a letter or a hyphen; such braces are a count.
-/
def readEdge? (isVerbose : Bool) (text : List Char) : Option (Symbol × Nat) :=
  match text with
  | '{' :: rest => do
      let (name, used) ← readBraced? isVerbose rest
      if name.head?.any fun initial => initial.isAlpha || initial == '-' then
        pure (.landmark (.wordEdge (← namedEdges.lookup name)), used + 1)
      else pure (.landmark (.wordEdge .edge), 0)
  | _ => some (.landmark (.wordEdge .edge), 0)

/-- The rest of an escape sequence, after the backslash. -/
def readEscape? (isVerbose : Bool) (text : List Char) : Option (Symbol × Nat) :=
  match text with
  | [] => none
  | 'x' :: rest => (readScalar? isVerbose 2 rest).map fun (symbol, used) => (symbol, used + 1)
  | 'u' :: rest => (readScalar? isVerbose 4 rest).map fun (symbol, used) => (symbol, used + 1)
  | 'U' :: rest => (readScalar? isVerbose 8 rest).map fun (symbol, used) => (symbol, used + 1)
  | 'b' :: rest => (readEdge? isVerbose rest).map fun (symbol, used) => (symbol, used + 1)
  | 'p' :: rest =>
      (readProperty? isVerbose false rest).map fun (symbol, used) => (symbol, used + 1)
  | 'P' :: rest =>
      (readProperty? isVerbose true rest).map fun (symbol, used) => (symbol, used + 1)
  | 'd' :: _ => some (.shorthand .decimal false, 1)
  | 'D' :: _ => some (.shorthand .decimal true, 1)
  | 's' :: _ => some (.shorthand .blank false, 1)
  | 'S' :: _ => some (.shorthand .blank true, 1)
  | 'w' :: _ => some (.shorthand .word false, 1)
  | 'W' :: _ => some (.shorthand .word true, 1)
  | 'a' :: _ => some (plain '\x07', 1)
  | 't' :: _ => some (plain '\t', 1)
  | 'n' :: _ => some (plain '\n', 1)
  | 'v' :: _ => some (plain '\x0b', 1)
  | 'f' :: _ => some (plain '\x0c', 1)
  | 'r' :: _ => some (plain '\r', 1)
  | 'A' :: _ => some (.landmark .textStart, 1)
  | 'z' :: _ => some (.landmark .textEnd, 1)
  | 'B' :: _ => some (.landmark (.wordEdge .noEdge), 1)
  | '<' :: _ => some (.landmark (.wordEdge .start), 1)
  | '>' :: _ => some (.landmark (.wordEdge .finish), 1)
  | character :: _ =>
      if character.toNat < 0x80 && !character.isAlphanum then some (plain character, 1) else none

/-- The symbol that begins with a character, and how much of the text after it is used. -/
def read? (isVerbose : Bool) (character : Char) (rest : List Char) : Option (Symbol × Nat) :=
  if character == '\\' then readEscape? isVerbose rest else some (plain character, 0)

end Symbol

end Pattern

end Precommit
