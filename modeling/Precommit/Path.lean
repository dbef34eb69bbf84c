import Precommit.Text.Line

/-!
# Paths

A path is split at slashes; a backslash is an ordinary character of a name. Empty
components and `.` carry no name, and `..` is a step and not a name. What a path can
lead to is bounded by its length in bytes, whether or not its components matter.
-/

namespace Precommit

namespace Path

/-- The components of a path, which may be empty, `.` or `..`. -/
def components (path : String) : List String :=
  (Text.split '/' path.toList).map String.ofList

/-- The greatest number of bytes of a path that can be followed. -/
def maxBytes : Nat := 4095

/-- The greatest number of bytes of a name. -/
def maxNameBytes : Nat := 255

/-- Whether the path and all its components are short enough to be followed. -/
def isFollowable (path : String) : Bool :=
  decide (path.utf8ByteSize ≤ maxBytes) &&
    (components path).all fun component => decide (component.utf8ByteSize ≤ maxNameBytes)

/-- The components that are a step: a name or `..`. -/
def steps (path : String) : List String :=
  (components path).filter fun component => component != "" && component != "."

/-- The components that are names. -/
def names (path : String) : List String :=
  (steps path).filter (· != "..")

/-- The name of what the path leads to, unless its last step goes up or there is none. -/
def baseName? (path : String) : Option String :=
  match (steps path).getLast? with
  | none => none
  | some step => if step == ".." then none else some step

/-- The part of a name after its last dot, unless the only dot is the first character. -/
def nameExtension? (name : String) : Option String :=
  let reversed := name.toList.reverse
  let suffix := reversed.takeWhile (· != '.')
  match reversed.drop suffix.length with
  | [] => none
  | [_] => none
  | _ => some (String.ofList suffix.reverse)

/-- The extension of what the path leads to. -/
def extension? (path : String) : Option String :=
  (baseName? path).bind nameExtension?

/-- Drop every `./` at the start. -/
def dropHere : List Char → List Char
  | '.' :: '/' :: rest => dropHere rest
  | path => path

/-- The path with slashes for backslashes and without any `./` at the start. -/
def normalize (path : String) : String :=
  String.ofList
    (dropHere (path.toList.map fun character => if character == '\\' then '/' else character))

end Path

end Precommit
