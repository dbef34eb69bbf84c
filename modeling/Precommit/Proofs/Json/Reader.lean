import Mathlib.Algebra.Field.Rat
import Precommit.Report.Json
import Precommit.Text.Hexadecimal

/-!
# Reading JSON

A reader for all of standard JSON, to say what a printed report means to those who read it.
Blanks may stand around every token, numbers may have a sign, a fraction and an exponent, and
a string may write any of its characters as an escape sequence, those past U+FFFF as two.

Every reader takes the text at some place and gives what it read together with the text that
follows. The readers of nested values take some fuel, and every two steps use at least one
character.
-/

namespace Precommit

namespace Json

/-- What a JSON text says. The members of an object are kept in their order. -/
inductive Value
  | null
  | boolean (value : Bool)
  | number (value : ℚ)
  | string (text : String)
  | array (items : List Value)
  | object (members : List (String × Value))

namespace Reader

def isBlank (character : Char) : Bool :=
  character == ' ' || character == '\t' || character == '\n' || character == '\r'

def skipBlanks (text : List Char) : List Char :=
  text.dropWhile isBlank

/-- The code unit that four hexadecimal digits write. -/
def codeUnit? (text : List Char) : Option Nat :=
  match text with
  | first :: second :: third :: fourth :: _ => do
      let first ← Text.hexDigit? first
      let second ← Text.hexDigit? second
      let third ← Text.hexDigit? third
      let fourth ← Text.hexDigit? fourth
      pure (((first * 0x10 + second) * 0x10 + third) * 0x10 + fourth)
  | _ => none

/-- The second half of a pair of code units, after the first half. -/
def lowSurrogate? (text : List Char) : Option Nat :=
  match text with
  | '\\' :: 'u' :: digits => (codeUnit? digits).filter fun unit => 0xDC00 ≤ unit && unit < 0xE000
  | _ => none

/-- The character of an escape sequence after the backslash, and the number of characters used. -/
def readEscape? (text : List Char) : Option (Char × Nat) :=
  match text with
  | '"' :: _ => some ('"', 1)
  | '\\' :: _ => some ('\\', 1)
  | '/' :: _ => some ('/', 1)
  | 'b' :: _ => some ('\x08', 1)
  | 'f' :: _ => some ('\x0c', 1)
  | 'n' :: _ => some ('\n', 1)
  | 'r' :: _ => some ('\r', 1)
  | 't' :: _ => some ('\t', 1)
  | 'u' :: digits =>
      match codeUnit? digits with
      | none => none
      | some unit =>
          if unit < 0xD800 || 0xE000 ≤ unit then some (Char.ofNat unit, 5)
          else if unit < 0xDC00 then
            (lowSurrogate? (digits.drop 4)).map fun low =>
              (Char.ofNat (0x10000 + (unit - 0xD800) * 0x400 + (low - 0xDC00)), 11)
          else none
  | _ => none

/-- The rest of a string, after its opening quote. -/
def readText? (text : List Char) : Option (List Char × List Char) :=
  match text with
  | [] => none
  | '"' :: rest => some ([], rest)
  | '\\' :: rest =>
      match readEscape? rest with
      | none => none
      | some (character, used) =>
          (readText? (rest.drop used)).map fun (read, rest) => (character :: read, rest)
  | character :: rest =>
      if 0x20 ≤ character.toNat then
        (readText? rest).map fun (read, rest) => (character :: read, rest)
      else none
termination_by text.length
decreasing_by
  · simp only [List.length_drop, List.length_cons]
    omega
  · simp

/-- One or more digits. -/
def readDigits? (text : List Char) : Option (List Char × List Char) :=
  match text.takeWhile Char.isDigit with
  | [] => none
  | digits => some (digits, text.dropWhile Char.isDigit)

/-- The digits before the point, which have no needless zero at the beginning. -/
def readWhole? (text : List Char) : Option (List Char × List Char) :=
  (readDigits? text).filter fun (digits, _) => digits.head? != some '0' || digits.length == 1

/-- The digits after the point, of which there are none if there is no point. -/
def readFraction? (text : List Char) : Option (List Char × List Char) :=
  match text with
  | '.' :: rest => readDigits? rest
  | _ => some ([], text)

def readExponent? (text : List Char) : Option (Int × List Char) :=
  let signed? (rest : List Char) : Option (Int × List Char) :=
    match rest with
    | '-' :: rest =>
        (readDigits? rest).map fun (digits, rest) => (-(Nat.ofDigitChars 10 digits 0 : Int), rest)
    | '+' :: rest =>
        (readDigits? rest).map fun (digits, rest) => (Nat.ofDigitChars 10 digits 0, rest)
    | _ => (readDigits? rest).map fun (digits, rest) => (Nat.ofDigitChars 10 digits 0, rest)
  match text with
  | 'e' :: rest => signed? rest
  | 'E' :: rest => signed? rest
  | _ => some (0, text)

/-- A number after its sign. -/
def readMagnitude? (text : List Char) : Option (ℚ × List Char) := do
  let (whole, rest) ← readWhole? text
  let (fraction, rest) ← readFraction? rest
  let (exponent, rest) ← readExponent? rest
  pure (Nat.ofDigitChars 10 (whole ++ fraction) 0 * 10 ^ (exponent - fraction.length), rest)

def readNumber? (text : List Char) : Option (ℚ × List Char) :=
  match text with
  | '-' :: rest => (readMagnitude? rest).map fun (value, rest) => (-value, rest)
  | _ => readMagnitude? text

mutual

/-- A value of any kind, after any blanks. -/
def readValue? (fuel : Nat) (text : List Char) : Option (Value × List Char) :=
  match fuel with
  | 0 => none
  | fuel + 1 =>
      match skipBlanks text with
      | 'n' :: 'u' :: 'l' :: 'l' :: rest => some (.null, rest)
      | 't' :: 'r' :: 'u' :: 'e' :: rest => some (.boolean true, rest)
      | 'f' :: 'a' :: 'l' :: 's' :: 'e' :: rest => some (.boolean false, rest)
      | '"' :: rest => (readText? rest).map fun (read, rest) => (.string (String.ofList read), rest)
      | '[' :: rest =>
          match skipBlanks rest with
          | ']' :: rest => some (.array [], rest)
          | _ => (readItems? fuel rest).map fun (items, rest) => (.array items, rest)
      | '{' :: rest =>
          match skipBlanks rest with
          | '}' :: rest => some (.object [], rest)
          | _ => (readMembers? fuel rest).map fun (members, rest) => (.object members, rest)
      | text => (readNumber? text).map fun (value, rest) => (.number value, rest)

/-- One or more items of an array and its closing bracket. -/
def readItems? (fuel : Nat) (text : List Char) : Option (List Value × List Char) :=
  match fuel with
  | 0 => none
  | fuel + 1 =>
      match readValue? fuel text with
      | none => none
      | some (value, rest) =>
          match skipBlanks rest with
          | ',' :: rest =>
              (readItems? fuel rest).map fun (values, rest) => (value :: values, rest)
          | ']' :: rest => some ([value], rest)
          | _ => none

/-- One or more members of an object and its closing brace. -/
def readMembers? (fuel : Nat) (text : List Char) :
    Option (List (String × Value) × List Char) :=
  match fuel with
  | 0 => none
  | fuel + 1 =>
      match skipBlanks text with
      | '"' :: rest =>
          match readText? rest with
          | none => none
          | some (key, rest) =>
              match skipBlanks rest with
              | ':' :: rest =>
                  match readValue? fuel rest with
                  | none => none
                  | some (value, rest) =>
                      match skipBlanks rest with
                      | ',' :: rest =>
                          (readMembers? fuel rest).map fun (members, rest) =>
                            ((String.ofList key, value) :: members, rest)
                      | '}' :: rest => some ([(String.ofList key, value)], rest)
                      | _ => none
              | _ => none
      | _ => none

end

end Reader

/-- What a text says as a whole. -/
def parse? (text : String) : Option Value :=
  match Reader.readValue? (2 * text.length + 1) text.toList with
  | some (value, rest) => if (Reader.skipBlanks rest).isEmpty then some value else none
  | none => none

end Json

end Precommit
