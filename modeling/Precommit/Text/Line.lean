import Precommit.Unicode.Blank

/-!
# Lines of text

A text is scanned line by line. Lines are separated by line feeds, so a text has
one line more than it has line feeds and the empty text has one empty line.
Other line ends are first brought to this form by `universalBreaks`.
-/

namespace Precommit

/-- A line of text as its characters, without a line end. -/
abbrev Line := List Char

namespace Text

open Unicode

/-- The pieces between the occurrences of a separator; there is always at least one. -/
def split (separator : Char) : List Char → List (List Char)
  | [] => [[]]
  | character :: rest =>
      if character == separator then [] :: split separator rest
      else
        match split separator rest with
        | [] => [[character]]
        | piece :: pieces => (character :: piece) :: pieces

theorem split_eq_splitOn (separator : Char) (text : List Char) :
    split separator text = text.splitOn separator := by
  induction text with
  | nil => rfl
  | cons character rest ih =>
      rw [split, ih, List.splitOn_cons_eq_if_modifyHead]
      split
      · rfl
      · cases split : rest.splitOn separator with
        | nil => exact absurd split (List.splitOn_ne_nil separator rest)
        | cons piece pieces => rfl

/-- The lines of a text, split at line feeds. -/
def lines (text : List Char) : List Line :=
  split '\n' text

/-- Replace every carriage return with a line feed after it by that line feed. -/
def joinBreaks : List Char → List Char
  | [] => []
  | '\r' :: '\n' :: rest => '\n' :: joinBreaks rest
  | character :: rest => character :: joinBreaks rest

/-- Replace every carriage return by a line feed. -/
def feedReturns (text : List Char) : List Char :=
  text.map fun character => if character == '\r' then '\n' else character

/--
Turn every carriage return, alone or with the line feed after it, into one line feed. A
text without carriage returns is left as it is.
-/
def universalBreaks (text : List Char) : List Char :=
  if text.contains '\r' then feedReturns (joinBreaks text) else text

/-- Drop the white space at the start. -/
def trimStart (line : List Char) : List Char :=
  line.dropWhile isBlank

/-- Drop the white space at the end. -/
def trimEnd (line : List Char) : List Char :=
  (line.reverse.dropWhile isBlank).reverse

/-- Drop the white space at both ends. -/
def trim (line : List Char) : List Char :=
  trimEnd (trimStart line)

/-- The beginning of a text, at most `length` characters. -/
def excerpt (length : Nat) (text : List Char) : List Char :=
  text.take length

/-- The lines paired with their numbers, which start at one. -/
def numbered (lines : List Line) : List (Nat × Line) :=
  (List.range' 1 lines.length).zip lines

end Text

namespace Line

/-- A comment line starts with two slashes once it is trimmed. -/
def isComment (line : Line) : Bool :=
  ['/', '/'].isPrefixOf (Text.trim line)

/-- The depth of open debug blocks after a line; a surplus closing line changes nothing. -/
def debugDepth (depth : Nat) (line : Line) : Nat :=
  let directive := Text.trim line
  if directive = "#if DEBUG".toList then depth + 1
  else if directive = "#endif".toList then depth - 1
  else depth

/--
For every line whether a debug block is open over the lines before it, when `depth`
blocks are open at the start. The opening line is outside and the closing line inside.
-/
def insideDebugFrom (depth : Nat) : List Line → List Bool
  | [] => []
  | line :: rest => (0 < depth) :: insideDebugFrom (line.debugDepth depth) rest

/-- For every line whether a debug block is open over the lines before it. -/
def insideDebug (lines : List Line) : List Bool :=
  insideDebugFrom 0 lines

end Line

end Precommit
