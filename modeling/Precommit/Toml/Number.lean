import Precommit.Toml.Text
import Precommit.Toml.Value

/-!
# Numbers, dates and booleans of TOML

These values are written without quotes. `Scalar.split` takes all characters that can
belong to one, and words that follow after white space with them, and
`Scalar.ofText?` decides what they say. Integers are only looked at as far as is needed
to tell them from other values.
-/

namespace Precommit

namespace Toml

namespace Scalar

/-- The value of one or more digits in a base. -/
def readDigits? (base : Nat) (text : List Char) : Option Nat := do
  if text.isEmpty then none
  else
    let digits ← text.mapM fun character => (Text.hexDigit? character).filter (· < base)
    pure (digits.foldl (fun value digit => value * base + digit) 0)

/--
The text without its low lines, each of which has to stand between two digits; `before`
is the character before the text.
-/
def dropSeparators? (isDigit : Char → Bool) (before : Option Char) :
    List Char → Option (List Char)
  | [] => some []
  | character :: rest =>
      if character == '_' then
        if before.any isDigit && rest.head?.any isDigit then
          dropSeparators? isDigit (some character) rest
        else none
      else (dropSeparators? isDigit (some character) rest).map (character :: ·)

/-- Whether the character is a digit in some base. -/
def isAnyDigit (character : Char) : Bool :=
  (Text.hexDigit? character).isSome

/-- The number that a text without low lines writes, with or without a sign. -/
def signed? (base : Nat) (text : List Char) : Option Int :=
  match text with
  | '+' :: digits => (readDigits? base digits).map Int.ofNat
  | '-' :: digits => (readDigits? base digits).map fun value => -Int.ofNat value
  | _ => (readDigits? base text).map Int.ofNat

/-- An integer, given the text after the mark of its base. -/
def integer? (base : Nat) (text : List Char) : Option Value :=
  (dropSeparators? isAnyDigit none text).map fun digits =>
    match signed? base digits with
    | some value => .integer value
    | none => .malformed

/-- An integer with the mark of its base, all of whose characters belong to that base. -/
def marked? (base : Nat) (text : List Char) : Option Value :=
  if text.all fun character => character == '_' || (readDigits? base [character]).isSome then
    integer? base text
  else none

/-- The rest of a text after one or more digits, which may have low lines among them. -/
def skipDigits? (text : List Char) : Option (List Char) :=
  let isPart (character : Char) : Bool := character.isDigit || character == '_'
  if (text.takeWhile isPart).any Char.isDigit then some (text.dropWhile isPart) else none

/-- Whether an unsigned text has the parts of a float; low lines may be anywhere in digits. -/
def isFloat (text : List Char) : Bool :=
  let whole := text.takeWhile fun character => character.isDigit || character == '_'
  let fraction? (rest : List Char) : Option (List Char) :=
    match rest with
    | '.' :: rest => skipDigits? rest
    | _ => some rest
  let exponent? (rest : List Char) : Option (List Char) :=
    let digits? (rest : List Char) : Option (List Char) :=
      match rest with
      | '+' :: rest => skipDigits? rest
      | '-' :: rest => skipDigits? rest
      | _ => skipDigits? rest
    match rest with
    | 'e' :: rest => digits? rest
    | 'E' :: rest => digits? rest
    | _ => some rest
  let hasLeadingZero := whole.head? == some '0' && 2 ≤ (whole.filter Char.isDigit).length
  !hasLeadingZero && ((skipDigits? text).bind fraction?).bind exponent? == some []

/-- The number that exactly `count` digits write. -/
def fixedDigits? (count : Nat) (text : List Char) : Option Nat :=
  if text.length = count then readDigits? 10 text else none

/-- Whether the text is a date such as `1979-05-27`. -/
def isDate (text : List Char) : Bool :=
  let lengths := [31, 29, 31, 30, 31, 30, 31, 31, 30, 31, 30, 31]
  text.length = 10 && text[4]? = some '-' && text[7]? = some '-' &&
    match fixedDigits? 4 (text.take 4), fixedDigits? 2 ((text.drop 5).take 2),
      fixedDigits? 2 (text.drop 8) with
    | some year, some month, some day =>
        let isLeap := year % 4 = 0 && (year % 100 != 0 || year % 400 = 0)
        1 ≤ month && 1 ≤ day && day ≤ (lengths[month - 1]?).getD 0 &&
          (month != 2 || day ≤ 28 || isLeap)
    | _, _, _ => false

/-- Whether the text is an hour and a minute such as `07:32`. -/
def isHourMinute (text : List Char) : Bool :=
  text.length = 5 && text[2]? = some ':' &&
    (fixedDigits? 2 (text.take 2)).any (· < 24) && (fixedDigits? 2 (text.drop 3)).any (· < 60)

/-- Whether the text is a time such as `07:32` or `07:32:00.5`. -/
def isTime (text : List Char) : Bool :=
  isHourMinute (text.take 5) &&
    match text.drop 5 with
    | [] => true
    | ':' :: rest =>
        (fixedDigits? 2 (rest.take 2)).any (· ≤ 60) &&
          match rest.drop 2 with
          | [] => true
          | '.' :: digits => !digits.isEmpty && digits.all Char.isDigit
          | _ => false
    | _ => false

/-- Whether the text is a time with or without an offset from universal time. -/
def isOffsetTime (text : List Char) : Bool :=
  let isOffsetMark (character : Char) : Bool :=
    character == 'Z' || character == 'z' || character == '+' || character == '-'
  let time := text.takeWhile (!isOffsetMark ·)
  isTime time &&
    match text.drop time.length with
    | [] => true
    | 'Z' :: rest => rest.isEmpty
    | 'z' :: rest => rest.isEmpty
    | _ :: offset => isHourMinute offset

/-- Whether the text is a date, a time or both. -/
def isDatetime (text : List Char) : Bool :=
  isTime text || isDate text ||
    (isDate (text.take 10) && ((text[10]?).any fun mark => ['T', 't', ' '].contains mark) &&
      isOffsetTime (text.drop 11))

/--
A number that begins with a digit or a low line, given the whole text and what follows
its sign. A low line after the first digits makes the text an integer, whatever comes
later; then it may turn out malformed.
-/
def number? (text unsigned : List Char) : Option Value :=
  let rest := unsigned.dropWhile Char.isDigit
  let hasLeadingZero := unsigned.head? == some '0'
  match rest with
  | [] => if hasLeadingZero && 2 ≤ unsigned.length then none else integer? 10 text
  | '-' :: _ => if isDatetime text then some .datetime else none
  | ':' :: _ => if isDatetime text then some .datetime else none
  | mark :: _ =>
      if rest.contains ' ' then none
      else if rest.any fun character => ['.', 'e', 'E'].contains character then
        if isFloat unsigned && (dropSeparators? Char.isDigit none text).isSome then some .float
        else none
      else if mark == '_' && !hasLeadingZero then integer? 10 text
      else none

/-- A number after its sign. -/
def ofSigned? (text unsigned : List Char) : Option Value :=
  match unsigned with
  | '0' :: mark :: _ =>
      if ['x', 'o', 'b', 'd', 'X', 'O', 'B', 'D'].contains mark then none
      else number? text unsigned
  | initial :: _ =>
      if initial.isDigit || initial == '_' then number? text unsigned
      else if unsigned = "inf".toList || unsigned = "nan".toList then some .float
      else none
  | [] => none

/-- What a text without quotes says. -/
def ofText? (text : List Char) : Option Value :=
  match text with
  | '+' :: unsigned => ofSigned? text unsigned
  | '-' :: unsigned => ofSigned? text unsigned
  | '0' :: 'x' :: digits => marked? 16 digits
  | '0' :: 'o' :: digits => marked? 8 digits
  | '0' :: 'b' :: digits => marked? 2 digits
  | _ =>
      if text = "true".toList then some (.boolean true)
      else if text = "false".toList then some (.boolean false)
      else ofSigned? text text

/-- Whether the character ends a text without quotes. -/
def isDelimiter (character : Char) : Bool :=
  ['=', ',', '[', ']', '{', '}', '#', '\r', '\n'].contains character

/-- Whether a text without quotes goes on after white space with the character. -/
def continues (character : Char) : Bool :=
  !isDelimiter character && !(['.', '"', '\''].contains character)

/-- The text without quotes at some place, and what follows it. -/
def split (text : List Char) : List Char × List Char :=
  match text with
  | [] => ([], [])
  | character :: rest =>
      if isDelimiter character ||
          (isSpace character && !(rest.dropWhile isSpace).head?.any continues) then
        ([], text)
      else (character :: (split rest).1, (split rest).2)

/-- A number, date or boolean. -/
def read? (text : List Char) : Option (Value × List Char) :=
  (ofText? (split text).1).map fun value => (value, (split text).2)

end Scalar

end Toml

end Precommit
