import Precommit.Path
import Precommit.Text.Utf8

/-!
# Directories

A directory is a list of entries, each a file with its content or another directory.
Paths are followed from the directory at the top: `.` and empty components stay where
they are, `..` goes up, and everything but the last component has to exist. A path may
lead up and out of the directory at the top; around it there are only directories. A
path that is too long leads nowhere, however little of it is left after that.
-/

namespace Precommit

/-- The entries of a directory, in the order in which it delivers them. -/
inductive Directory
  | empty
  | file (name : String) (content : Bytes) (rest : Directory)
  | folder (name : String) (inner rest : Directory)
deriving DecidableEq, Repr

/-- What a path can lead to. -/
inductive Entry
  | file (content : Bytes)
  | folder (inner : Directory)
deriving DecidableEq, Repr

namespace Directory

/-- The entry of a name. -/
def find? (directory : Directory) (name : String) : Option Entry :=
  match directory with
  | .empty => none
  | .file other content rest => if other == name then some (.file content) else rest.find? name
  | .folder other inner rest => if other == name then some (.folder inner) else rest.find? name

/-- The entry that a list of names leads to. -/
def entryAt? (directory : Directory) : List String → Option Entry
  | [] => some (.folder directory)
  | name :: rest =>
      match directory.find? name with
      | some (.folder inner) => inner.entryAt? rest
      | some (.file content) => if rest.isEmpty then some (.file content) else none
      | none => none

/-- A place that a path leads to. -/
inductive Place
  /-- In the directory at the top, with the names that lead there. -/
  | inside (names : List String)
  /-- One of the directories around it. -/
  | outside
deriving DecidableEq, Repr

/--
The place that a path leads to, from the place already reached. Only the last of its
names may be missing. Nothing is known outside but the way up.
-/
def locateFrom (directory : Directory) (reached : Place) : List String → Option Place
  | [] => some reached
  | component :: rest =>
      if component == "" || component == "." then directory.locateFrom reached rest
      else if component == ".." then
        match reached with
        | .inside [] => directory.locateFrom .outside rest
        | .inside names => directory.locateFrom (.inside names.dropLast) rest
        | .outside => directory.locateFrom .outside rest
      else
        match reached with
        | .outside => none
        | .inside names =>
            if rest.isEmpty then some (.inside (names ++ [component]))
            else
              match directory.entryAt? (names ++ [component]) with
              | some (.folder _) => directory.locateFrom (.inside (names ++ [component])) rest
              | _ => none

/-- The place that a path leads to, unless it cannot be followed. -/
def locate? (directory : Directory) (path : String) : Option Place :=
  if path == "" || path.toList.contains '\u0000' || !Path.isFollowable path then none
  else
    directory.locateFrom (if path.toList.head? == some '/' then .outside else .inside [])
      (Path.components path)

/-- What a path leads to. -/
def lookup? (directory : Directory) (path : String) : Option Entry :=
  match directory.locate? path with
  | none => none
  | some (.inside names) => directory.entryAt? names
  | some .outside => some (.folder .empty)

/-- The content of the file that a path leads to. -/
def content? (directory : Directory) (path : String) : Option Bytes :=
  match directory.lookup? path with
  | some (.file content) => some content
  | _ => none

/-- The part of a directory in which the path of every entry has at most `room` bytes. -/
def within (directory : Directory) (room : Nat) : Directory :=
  match directory with
  | .empty => .empty
  | .file name content rest =>
      if name.utf8ByteSize ≤ room then .file name content (rest.within room)
      else rest.within room
  | .folder name inner rest =>
      if name.utf8ByteSize ≤ room then
        .folder name (inner.within (room - name.utf8ByteSize - 1)) (rest.within room)
      else rest.within room

/-- Set the content of the file of a name; a directory of that name is in the way. -/
def setFile? (directory : Directory) (name : String) (content : Bytes) : Option Directory :=
  match directory with
  | .empty => some (.file name content .empty)
  | .file other old rest =>
      if other == name then some (.file name content rest)
      else (rest.setFile? name content).map (.file other old)
  | .folder other inner rest =>
      if other == name then none
      else (rest.setFile? name content).map (.folder other inner)

/-- Change the directory of a name, which has to exist. -/
def changeFolder? (directory : Directory) (name : String)
    (change : Directory → Option Directory) : Option Directory :=
  match directory with
  | .empty => none
  | .file other content rest =>
      if other == name then none
      else (rest.changeFolder? name change).map (.file other content)
  | .folder other inner rest =>
      if other == name then (change inner).map fun inner => .folder name inner rest
      else (rest.changeFolder? name change).map (.folder other inner)

/-- Set the content of the file that a list of names leads to. -/
def setFileAt? (directory : Directory) (content : Bytes) : List String → Option Directory
  | [] => none
  | [name] => directory.setFile? name content
  | name :: rest => directory.changeFolder? name fun inner => inner.setFileAt? content rest

/-- Write a file; its directory has to exist. -/
def store? (directory : Directory) (path : String) (content : Bytes) : Option Directory :=
  match directory.locate? path with
  | some (.inside names) => directory.setFileAt? content names
  | _ => none

end Directory

end Precommit
