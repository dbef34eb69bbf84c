import Precommit.Pattern.Symbol

/-!
# Flags of pattern texts

The options that can be switched inside a pattern text, and what symbols stand for
under them. With the flag for case, single characters and classes in brackets are
closed under case; a negated class is closed first and complemented after that.

Without the flag for Unicode a set stands for bytes. A set with bytes beyond ASCII
could split a character, so it is refused, and with it every negated class.
-/

namespace Precommit

namespace Pattern

/-- The options that can be switched inside a pattern text. -/
structure Flags where
  /-- `i`: letters match in either case. -/
  caseless : Bool := false
  /-- `m`: the anchors also hold at line ends. -/
  multiLine : Bool := false
  /-- `s`: the dot also matches a line feed. -/
  dotAll : Bool := false
  /-- `u`: classes and edges go by Unicode and not by ASCII. -/
  unicode : Bool := true
  /-- `x`: white space and comments are ignored. -/
  verbose : Bool := false
  /-- `R`: a carriage return also ends a line. -/
  anyLineEnd : Bool := false
  /-- `U`: repetitions are lazy unless they are marked. -/
  isLazy : Bool := false
deriving DecidableEq, Repr

namespace Flags

def set? (flags : Flags) (letter : Char) (value : Bool) : Option Flags :=
  match letter with
  | 'i' => some { flags with caseless := value }
  | 'm' => some { flags with multiLine := value }
  | 's' => some { flags with dotAll := value }
  | 'u' => some { flags with unicode := value }
  | 'x' => some { flags with verbose := value }
  | 'R' => some { flags with anyLineEnd := value }
  | 'U' => some { flags with isLazy := value }
  | _ => none

/-- Switch the flags of a list of letters on, or off after a hyphen. -/
def setAll? (flags : Flags) (value : Bool) : List Char → Option Flags
  | [] => some flags
  | '-' :: rest =>
      if value && !rest.isEmpty then setAll? flags false rest else none
  | letter :: rest =>
      if rest.contains letter then none
      else (flags.set? letter value).bind fun flags => setAll? flags value rest

/-- Close a set under case if the flag asks for it. -/
def fold (flags : Flags) (set : CharSet) : CharSet :=
  if !flags.caseless then set
  else if flags.unicode then .caseless set
  else .intersection (.caseless set) .ascii

/-- Whether sets may be negated: without Unicode the complement has bytes beyond ASCII. -/
def allows (flags : Flags) (negated : Bool) : Bool :=
  flags.unicode || !negated

/-- The set that a class letter stands for. -/
def shorthand? (flags : Flags) (kind : Shorthand) (negated : Bool) : Option CharSet :=
  let set : CharSet :=
    match kind, flags.unicode with
    | .decimal, true => .decimal
    | .decimal, false => .range '0' '9'
    | .blank, true => .blank
    | .blank, false => .union (.range '\t' '\r') (.single ' ')
    | .word, true => .word
    | .word, false => .intersection .word .ascii
  if flags.allows negated then some (set.negateIf negated) else none

/-- The set that a property escape stands for. -/
def property? (flags : Flags) (set : CharSet) (negated : Bool) : Option CharSet :=
  if !flags.unicode then none
  else if negated then some (flags.fold set).negation
  else some (flags.fold set)

/-- The set for a character outside of brackets; a byte has to be one of ASCII. -/
def literal? (flags : Flags) (character : Char) (isByte : Bool) : Option CharSet :=
  if flags.unicode || character.toNat < 0x80 then some (flags.fold (.single character))
  else if isByte then none
  else some (.single character)

/-- Whether a character may be a member of a class in brackets. -/
def isMember (flags : Flags) (character : Char) : Bool :=
  flags.unicode || character.toNat < 0x80

/-- The members that a symbol adds to a class in brackets. -/
def members? (flags : Flags) (symbol : Symbol) : Option CharSet :=
  match symbol with
  | .literal character _ => if flags.isMember character then some (.single character) else none
  | .shorthand kind negated => flags.shorthand? kind negated
  | .property set negated => flags.property? set negated
  | .landmark _ => none

/-- The range between two symbols, both of which have to be characters. -/
def range? (flags : Flags) (first last : Symbol) : Option CharSet :=
  match first, last with
  | .literal first _, .literal last _ =>
      if flags.isMember first && flags.isMember last && first ≤ last then some (.range first last)
      else none
  | _, _ => none

/-- The assertion that an escape sequence stands for. -/
def landmark (flags : Flags) (kind : Landmark) : Assertion :=
  match kind with
  | .textStart => .textStart
  | .textEnd => .textEnd
  | .wordEdge position =>
      .wordEdge position (if flags.unicode then .word else .intersection .word .ascii)

/-- The assertion of a circumflex. -/
def startAnchor (flags : Flags) : Assertion :=
  if !flags.multiLine then .textStart
  else if flags.anyLineEnd then .anyLineStart
  else .lineStart

/-- The assertion of a dollar sign. -/
def endAnchor (flags : Flags) : Assertion :=
  if !flags.multiLine then .textEnd
  else if flags.anyLineEnd then .anyLineEnd
  else .lineEnd

def dot? (flags : Flags) : Option CharSet :=
  if !flags.unicode then none
  else if flags.dotAll then some .all
  else if flags.anyLineEnd then some (.complement (.union (.single '\n') (.single '\r')))
  else some (.complement (.single '\n'))

end Flags

end Pattern

end Precommit
