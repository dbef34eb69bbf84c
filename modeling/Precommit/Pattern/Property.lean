import Precommit.Pattern.CharSet

/-!
# Properties as sets of characters

The sets that pattern texts name in escape sequences such as `\p{Greek}`. A single name
is that of a property which characters have or have not, of a general category or of
a script; other values are written after the name of their property. Case, spaces, low
lines and hyphens in names do not matter.
-/

namespace Precommit

namespace CharSet

/-- The characters that have a value of a property. -/
def valued? (family : Unicode.PropertyFamily) (name : String) : Option CharSet :=
  (family.position? name).map (.property family)

/-- The characters that have one of several values of a property. -/
def valued (family : Unicode.PropertyFamily) (names : List String) : CharSet :=
  unions (names.filterMap (valued? family))

/-- The characters that have one of several properties. -/
def having (names : List String) : CharSet :=
  valued .binary names

/-- The characters of several general categories. -/
def categories (names : List String) : CharSet :=
  valued .category names

/-- The characters in several ranges. -/
def ofRanges (ranges : List (Char × Char)) : CharSet :=
  unions (ranges.map fun (first, last) => .range first last)

/-! ## General categories -/

def casedLetter : CharSet := categories ["lu", "ll", "lt"]

def letter : CharSet := categories ["lu", "ll", "lt", "lm", "lo"]

def mark : CharSet := categories ["mn", "mc", "me"]

def number : CharSet := .union .decimal (categories ["nl", "no"])

def punctuation : CharSet := categories ["pc", "pd", "ps", "pe", "pi", "pf", "po"]

def symbol : CharSet := categories ["sm", "sc", "sk", "so"]

def separator : CharSet := categories ["zs", "zl", "zp"]

/-- The characters in no other group of general categories. -/
def other : CharSet :=
  .complement (unions [letter, mark, number, punctuation, symbol, separator])

/-- The groups of general categories, and what else is named like one. -/
def categoryGroups : List (List String × CharSet) :=
  [(["any"], all), (["ascii"], ascii), (["assigned"], .complement (categories ["cn"])),
    (["decimalnumber", "digit", "nd"], .decimal), (["casedletter", "lc"], casedLetter),
    (["letter", "l"], letter), (["mark", "combiningmark", "m"], mark), (["number", "n"], number),
    (["punctuation", "punct", "p"], punctuation), (["symbol", "s"], symbol),
    (["separator", "z"], separator), (["other", "c"], other)]

/-! ## Properties that follow from others -/

/-- The lower case letters and what else counts as lower case. -/
def lowercase : CharSet :=
  .union (categories ["ll"]) (having ["otherlowercase"])

/-- The upper case letters and what else counts as upper case. -/
def uppercase : CharSet :=
  .union (categories ["lu"]) (having ["otheruppercase"])

/-- The letters and what else is alphabetic. -/
def alphabetic : CharSet :=
  unions [lowercase, uppercase, categories ["lt", "lm", "lo", "nl"], having ["otheralphabetic"]]

/-- The characters that extend the character before them. -/
def graphemeExtend : CharSet :=
  .union (categories ["mn", "me"]) (having ["othergraphemeextend"])

/-- The characters that patterns reserve. -/
def reserved : CharSet :=
  having ["patternsyntax", "patternwhitespace"]

/-- The characters that begin an identifier. -/
def idStart : CharSet :=
  (unions [letter, categories ["nl"], having ["otheridstart"]]).difference reserved

/-- The characters in identifiers. -/
def idContinue : CharSet :=
  (unions
    [letter, categories ["nl", "mn", "mc", "pc"], .decimal,
      having ["otheridstart", "otheridcontinue"]]).difference reserved

/-- The characters in identifiers whose compatibility forms are not identifiers. -/
def unstable : CharSet :=
  ofRanges
    [('\u037a', '\u037a'), ('\u309b', '\u309c'), ('\ufc5e', '\ufc63'), ('\ufdfa', '\ufdfb'),
      ('\ufe70', '\ufe70'), ('\ufe72', '\ufe72'), ('\ufe74', '\ufe74'), ('\ufe76', '\ufe76'),
      ('\ufe78', '\ufe78'), ('\ufe7a', '\ufe7a'), ('\ufe7c', '\ufe7c'), ('\ufe7e', '\ufe7e')]

/-- The characters that begin an identifier, and whose compatibility forms only go on with one. -/
def unstableStart : CharSet :=
  .union unstable
    (ofRanges [('\u0e33', '\u0e33'), ('\u0eb3', '\u0eb3'), ('\uff9e', '\uff9f')])

/-- The characters that are not shown if a font has no image of them. -/
def defaultIgnorable : CharSet :=
  (unions
    [having ["otherdefaultignorablecodepoint", "variationselector"],
      categories ["cf"]]).difference
    (unions
      [.blank, having ["prependedconcatenationmark"], .range '\ufff9' '\ufffb',
        .range (Char.ofNat 0x13430) (Char.ofNat 0x1343F)])

/-- The properties that follow from others, and those with a predicate of their own. -/
def derivedProperties : List (List String × CharSet) :=
  [(["whitespace", "space", "wspace"], .blank),
    (["lowercase", "lower"], lowercase),
    (["uppercase", "upper"], uppercase),
    (["alphabetic", "alpha"], alphabetic),
    (["cased"], unions [lowercase, uppercase, categories ["lt"]]),
    (["caseignorable", "ci"],
      .union (categories ["mn", "me", "cf", "lm", "sk"])
        (valued .wordBreak ["midletter", "midnumlet", "singlequote"])),
    (["changeswhencasemapped", "cwcm"], having ["cwl", "cwt", "cwu"]),
    (["math"], .union (categories ["sm"]) (having ["othermath"])),
    (["graphemeextend", "grext"], graphemeExtend),
    (["graphemebase", "grbase"],
      .complement (unions [other, categories ["zl", "zp"], graphemeExtend])),
    (["idstart", "ids"], idStart),
    (["idcontinue", "idc"], idContinue),
    (["xidstart", "xids"], idStart.difference unstableStart),
    (["xidcontinue", "xidc"], idContinue.difference unstable),
    (["defaultignorablecodepoint", "di"], defaultIgnorable)]

/-! ## Values of the properties for segmentation that follow from other properties -/

/-- The characters that extend a user-perceived character. -/
def clusterExtend : CharSet :=
  .union graphemeExtend (having ["emojimodifier"])

/-- The letters of Georgian that count as letters without case. -/
def georgianSmall : CharSet :=
  ofRanges [('\u10d0', '\u10fa'), ('\u10fd', '\u10ff')]

/-- The capital forms of these letters. -/
def georgianCapital : CharSet :=
  ofRanges [('\u1c90', '\u1cba'), ('\u1cbd', '\u1cbf')]

/-- The characters that extend the character before them within a sentence. -/
def sentenceExtend : CharSet :=
  unions [graphemeExtend, categories ["mc"], .single '\u200d']

/-- The lower case characters of a sentence. -/
def sentenceLower : CharSet :=
  lowercase.difference (.union graphemeExtend georgianSmall)

/-- The upper case characters of a sentence. -/
def sentenceUpper : CharSet :=
  (CharSet.union uppercase (categories ["lt"])).difference georgianCapital

/-- The letters of a sentence without case. -/
def sentenceLetter : CharSet :=
  (unions [alphabetic, .single '\u05f3', georgianSmall, georgianCapital]).difference
    (unions [sentenceLower, sentenceUpper, sentenceExtend])

/-! ## Names -/

/-- A name in lower case, without separators and without a leading `is`. -/
def normalizeName (name : List Char) : String :=
  let isMarked := (name.take 2).map Char.toLower = ['i', 's']
  let isPart (character : Char) : Bool :=
    character.toNat < 0x80 && character != ' ' && character != '_' && character != '-'
  let letters :=
    ((if isMarked then name.drop 2 else name).filter isPart).map Char.toLower
  if isMarked && letters = ['c'] then "isc" else String.ofList letters

/-- The set that goes with a name in a list. -/
def listed? (sets : List (List String × CharSet)) (name : String) : Option CharSet :=
  (sets.find? fun (names, _) => names.contains name).map Prod.snd

/-- The property with a name. -/
def binary? (name : String) : Option CharSet :=
  (listed? derivedProperties name).or (valued? .binary name)

/-- The general category, or group of them, with a name. -/
def category? (name : String) : Option CharSet :=
  (listed? categoryGroups name).or (valued? .category name)

/-- The script with a name. -/
def script? (name : String) : Option CharSet :=
  valued? .script name

/-- The characters used in the script with a name. -/
def scriptExtension? (name : String) : Option CharSet :=
  (valued? .scriptExtension name).or (script? name)

/-- The characters in the version of Unicode with a name and in those before it. -/
def age? (name : String) : Option CharSet :=
  ((Unicode.PropertyFamily.age).position? name).map fun last =>
    unions ((List.range (last + 1)).map (.property .age))

/-- The value of the property for user-perceived characters with a name. -/
def graphemeBreak? (name : String) : Option CharSet :=
  (listed? [(["extend", "ex"], clusterExtend)] name).or (valued? .graphemeBreak name)

/-- The value of the property for words with a name. -/
def wordBreak? (name : String) : Option CharSet :=
  (listed? [(["extend"], .union clusterExtend (categories ["mc"]))] name).or
    (valued? .wordBreak name)

/-- The value of the property for sentences with a name. -/
def sentenceBreak? (name : String) : Option CharSet :=
  (listed?
    [(["extend", "ex"], sentenceExtend), (["lower", "lo"], sentenceLower),
      (["upper", "up"], sentenceUpper), (["oletter", "le"], sentenceLetter)] name).or
    (valued? .sentenceBreak name)

/-- The set for a name without a property. -/
def ofName? (name : List Char) : Option CharSet :=
  let name := normalizeName name
  ((binary? name).or (category? name)).or (script? name)

/-- The set for the value of a property. -/
def ofValue? (name value : List Char) : Option CharSet :=
  let name := normalizeName name
  let value := normalizeName value
  if ["generalcategory", "gc"].contains name then category? value
  else if ["script", "sc"].contains name then script? value
  else if ["scriptextensions", "scx"].contains name then scriptExtension? value
  else if name = "age" then age? value
  else if ["graphemeclusterbreak", "gcb"].contains name then graphemeBreak? value
  else if ["wordbreak", "wb"].contains name then wordBreak? value
  else if ["sentencebreak", "sb"].contains name then sentenceBreak? value
  else Option.none

/-- What stands before and after the first occurrence of a mark. -/
def splitAt? (mark : List Char) (text : List Char) : Option (List Char × List Char) :=
  match text with
  | [] => Option.none
  | character :: rest =>
      if mark.isPrefixOf text then some ([], text.drop mark.length)
      else (splitAt? mark rest).map fun (before, after) => (character :: before, after)

/--
The set for what is written between the braces of an escape sequence: a name, or a
property and a value, with `!=`, `:` or `=` between them, which all mean the same.
-/
def ofProperty? (text : List Char) : Option CharSet :=
  match ((splitAt? ['!', '='] text).or (splitAt? [':'] text)).or (splitAt? ['='] text) with
  | some (name, value) => ofValue? name value
  | Option.none => ofName? text

end CharSet

end Precommit
