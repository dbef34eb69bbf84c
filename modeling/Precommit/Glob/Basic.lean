import Precommit.Pattern.Compile
import Precommit.Pattern.Search
import Precommit.Text.Utf8

/-!
# Globs

A glob describes whole paths. It is a list of parts, each of which stands for a
pattern; the text it matches is the UTF-8 form of a path, one byte at a time, so a
single wildcard takes one byte. Wildcards also match slashes. Two stars that fill
a component stand for whole components.

Some globs are recognized by their form. A glob that does no more than fix the
name of a file or its extension is looked up by the name of the path, and a path that
ends in two dots has no name. Only globs of no recognized form need an automaton, and
so only they can be nested too deeply or be too large.
-/

namespace Precommit

inductive GlobPart
  | literal (character : Char)
  /-- `?`: any byte. -/
  | anyByte
  /-- `*`: any run of bytes. -/
  | anyRun
  /-- `**/` at the start: nothing, a slash, or anything up to a slash. -/
  | leading
  /-- `/**` at the end: a slash and anything after it. -/
  | trailing
  /-- `/**/` in the middle: a slash, or anything between two slashes. -/
  | middle
  /-- `[...]`: a byte of the ranges, or one outside of them. -/
  | oneOf (negated : Bool) (ranges : List (Char × Char))
  /-- `{...}`: one of the alternatives, if there is one that is not empty. -/
  | choice (alternatives : Pattern) (nestings : List Nat) (plan : Pattern.Plan)

namespace GlobPart

/-- A byte as the character with the same number. -/
def byteChar (byte : UInt8) : Char :=
  Char.ofNat byte.toNat

/-- The bytes of a character, as characters. -/
def bytesOf (character : Char) : List Char :=
  (Utf8.encode [character]).map byteChar

def bytes : CharSet :=
  .range '\u0000' 'ÿ'

/--
The bytes that a range between two characters stands for, as ranges. Between characters
of several bytes the range lies between the last byte of the first character and the
first byte of the last; their other bytes are members on their own.
-/
def rangeBytes (first last : Char) : List CharSet :=
  let low := bytesOf first
  let high := bytesOf last
  if first == last then low.map .single
  else
    low.dropLast.map .single ++ [.range (low.getLastD first) (high.headD last)] ++
      high.tail.map .single

/-- The bytes that the ranges of a class stand for. -/
def classBytes (ranges : List (Char × Char)) : List CharSet :=
  ranges.flatMap fun (first, last) => rangeBytes first last

/-- Any run of bytes. -/
def run : Pattern :=
  .star (.char .all)

/-- A slash. -/
def slash : Pattern :=
  .char (.single '/')

def pattern (part : GlobPart) : Pattern :=
  match part with
  | .literal character => .text (bytesOf character)
  | .anyByte => .char .all
  | .anyRun => run
  | .leading => .alternative slash.optional (.sequence run slash)
  | .trailing => .sequence slash run
  | .middle => .alternative slash (.sequence slash (.sequence run slash))
  | .oneOf negated ranges => .char (.negateIf negated (.unions (classBytes ranges)))
  | .choice alternatives _ _ => alternatives

/--
The nestings of the pieces that the part is made of: what is written for it in the form of
a pattern text, with a group around alternatives.
-/
def nestings (part : GlobPart) : List Nat :=
  match part with
  | .literal character => (bytesOf character).map fun _ => 0
  | .anyByte => [0]
  | .anyRun => [1]
  | .leading => [4]
  | .trailing => [0, 1]
  | .middle => [4]
  | .oneOf _ ranges => [if 2 ≤ (classBytes ranges).length then 2 else 1]
  | .choice _ nestings _ => nestings

open Pattern

/-- The plan for any run of bytes. -/
def runPlan : Plan :=
  .repeated 0 none false (.ofRanges bytes.ranges)

def slashPlan : Plan :=
  .text ['/']

def plan (part : GlobPart) : Plan :=
  match part with
  | .literal character => .text [character]
  | .anyByte => .ofRanges bytes.ranges
  | .anyRun => runPlan
  | .leading =>
      .alternativeAll
        [.repeated 0 (some 1) false slashPlan, .sequenceAll [runPlan, slashPlan]]
  | .trailing => .sequenceAll [slashPlan, runPlan]
  | .middle => .alternativeAll [slashPlan, .sequenceAll [slashPlan, runPlan, slashPlan]]
  | .oneOf negated ranges =>
      .ofRanges (CharSet.intersection bytes (.negateIf negated (.unions (classBytes ranges)))).ranges
  | .choice _ _ plan => plan

/-- The nesting of parts one after the other. -/
def nestingOf (nestings : List Nat) : Nat :=
  nestings.foldl max 0 + (if 2 ≤ nestings.length then 1 else 0)

/-- The character that the part stands for, if it is one. -/
def literal? : GlobPart → Option Char
  | .literal character => some character
  | _ => none

/-- The text that the parts stand for, if they are all characters. -/
def text? (parts : List GlobPart) : Option (List Char) :=
  parts.mapM literal?

/-- A choice between lists of parts; empty ones are left out. -/
def ofBranches (branches : List (List GlobPart)) : GlobPart :=
  let branches := branches.filter fun parts => !(parts.flatMap nestings).isEmpty
  match branches with
  | [] => .choice .empty [] .empty
  | branches =>
      let nesting := (branches.map fun parts => nestingOf (parts.flatMap nestings)).foldl max 0
      .choice
        (.alternativeAll (branches.map fun parts => .sequenceAll (parts.map pattern)))
        [nesting + 1 + (if 2 ≤ branches.length then 1 else 0)]
        (.alternativeAll (branches.map fun parts => .sequenceAll (parts.map plan)))

end GlobPart

inductive GlobForm
  /-- The name of a file, or its extension, and nothing else. -/
  | name
  /-- A whole path, its beginning or its end. -/
  | text
  /-- Anything that ends in a certain extension. -/
  | extension
  | general
deriving DecidableEq, Repr

namespace GlobForm

/-- The parts after a leading part. -/
def dropLeading : List GlobPart → List GlobPart
  | .leading :: parts => parts
  | parts => parts

/-- Whether the parts give the name of a file, in any directory. -/
def isName : List GlobPart → Bool
  | .leading :: part :: parts =>
      (GlobPart.text? (part :: parts)).any fun text => !text.contains '/'
  | _ => false

/-- Whether the parts give the extension of a file. -/
def isExtension (parts : List GlobPart) : Bool :=
  match dropLeading parts with
  | .anyRun :: .literal '.' :: parts =>
      (GlobPart.text? parts).any fun text => !text.contains '/' && !text.contains '.'
  | _ => false

/-- Whether the parts give a whole path or its beginning. -/
def isBeginning (parts : List GlobPart) : Bool :=
  match parts.reverse with
  | .anyRun :: before => !before.isEmpty && (GlobPart.text? before).isSome
  | .trailing :: before => (GlobPart.text? before).isSome
  | parts => !parts.isEmpty && (GlobPart.text? parts).isSome

/-- Whether the parts give the end of a path. -/
def isEnding (parts : List GlobPart) : Bool :=
  let (hasSlash, parts) : Bool × List GlobPart :=
    match parts with
    | .leading :: .literal character :: parts => (true, .literal character :: parts)
    | parts => (false, dropLeading parts)
  let parts :=
    match parts with
    | .anyRun :: parts => parts
    | parts => parts
  (GlobPart.text? parts).any fun text => text ≠ [] && (hasSlash || text ≠ ['/'])

/-- Whether the parts end in an extension; they are given in reverse. -/
def endsInExtension : List GlobPart → Bool
  | .literal character :: before =>
      character == '.' || (character != '/' && endsInExtension before)
  | _ => false

/-- The form of the glob with the given parts. -/
def ofParts (parts : List GlobPart) : GlobForm :=
  if isName parts || isExtension parts then .name
  else if isBeginning parts || isEnding parts then .text
  else if endsInExtension parts.reverse then .extension
  else .general

end GlobForm

/-- A glob as the pattern for the bytes of the paths that it matches. -/
structure Glob where
  pattern : Pattern
  form : GlobForm
  /-- How deeply the pattern is nested. -/
  nesting : Nat
  /-- The plan for the whole path. -/
  plan : Pattern.Plan

namespace Glob

/-- The glob with the given parts; two stars alone match every path. -/
def ofParts (parts : List GlobPart) : Glob where
  pattern :=
    match parts with
    | [.leading] => GlobPart.run
    | parts => .sequenceAll (parts.map GlobPart.pattern)
  form := GlobForm.ofParts parts
  nesting :=
    match parts with
    | [.leading] => 2
    | parts => (parts.flatMap GlobPart.nestings).foldl max 0 + 1
  plan :=
    let plans :=
      match parts with
      | [.leading] => [GlobPart.runPlan]
      | parts => parts.map GlobPart.plan
    .sequenceAll (.assertion .textStart :: plans ++ [.assertion .textEnd])

/-- Whether the path has a name, which is what follows its last slash unless it is two dots. -/
def hasName (path : List Char) : Bool :=
  path.reverse.takeWhile (· != '/') != ['.', '.']

/-- Whether the glob matches the whole path. -/
def isMatch (glob : Glob) (path : List Char) : Bool :=
  (glob.form == .text || glob.form == .general || hasName path) &&
    glob.pattern.whole.isMatch ((Utf8.encode path).map GlobPart.byteChar)

/--
Whether automata can be built for the globs: one for each glob that ends in an extension,
and one for all globs without a form. The size of the automata may be limited.
-/
def areBuildable (limit : Option Nat) (globs : List Glob) : Bool :=
  let extensions := globs.filter (·.form == .extension)
  let general := globs.filter (·.form == .general)
  (extensions ++ general).all (·.nesting ≤ Pattern.Expression.depthLimit) &&
    limit.all fun limit =>
      extensions.all (fun glob => Pattern.Plan.allFit limit true [glob.plan]) &&
        Pattern.Plan.allFit limit true (general.map (·.plan))

end Glob

end Precommit
