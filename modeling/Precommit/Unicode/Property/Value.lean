import Precommit.Text.Hexadecimal
import Precommit.Text.Line
import Precommit.Unicode.RangeTable

/-!
# Values of character properties

The larger tables of character properties are written as texts: one value after the
other, with its names, a colon, its ranges of code points in hexadecimal digits, and a
semicolon at the end.
-/

namespace Precommit

namespace Unicode

structure PropertyValue where
  /-- The names, in lower case and without separators. -/
  names : List String
  /-- The code points that have the value. -/
  table : RangeTable

namespace PropertyValue

/-- The words of a text, which are separated by spaces and line feeds. -/
def words (text : List Char) : List (List Char) :=
  ((Text.lines text).flatMap (Text.split ' ')).filter (!·.isEmpty)

/-- The number written in hexadecimal digits. -/
def readNumber (digits : List Char) : Nat :=
  digits.foldl (fun value digit => 16 * value + (Text.hexDigit? digit).getD 0) 0

/-- The range between two numbers with a hyphen, or the range of one number. -/
def readRange (word : List Char) : Nat × Nat :=
  let first := word.takeWhile (· != '-')
  match word.drop first.length with
  | [] => (readNumber first, readNumber first)
  | _ :: last => (readNumber first, readNumber last)

/-- The value that is written in the part of a table before a semicolon. -/
def read? (text : List Char) : Option PropertyValue :=
  let names := text.takeWhile (· != ':')
  match text.drop names.length with
  | [] => none
  | _ :: ranges =>
      some
        { names := (words names).map String.ofList
          table := ⟨((words ranges).map readRange).toArray⟩ }

/-- The values that are written in a table. -/
def readAll (text : String) : Array PropertyValue :=
  ((Text.split ';' text.toList).filterMap read?).toArray

end PropertyValue

end Unicode

end Precommit
