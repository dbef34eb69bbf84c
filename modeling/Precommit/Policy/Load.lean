import Precommit.Directory
import Precommit.Policy.Decode
import Precommit.SetupError
import Precommit.Toml.Document

/-!
# Loading policies

A policy file that does not exist stands for the built-in policy. One that exists has
to be a text and a policy.
-/

namespace Precommit

namespace Policy

/-- Read a policy from the text of its file. -/
def ofText? (text : List Char) : Option Policy :=
  (Toml.parse? text).bind ofTable?

/-- The policy of what was found at a path. -/
def ofEntry (path : String) (entry : Option Entry) : Except SetupError Policy :=
  match entry with
  | none => .ok {}
  | some (.folder _) => .error (.unreadablePolicy path)
  | some (.file content) =>
      match Utf8.decode? content with
      | none => .error (.unreadablePolicy path)
      | some text =>
          match ofText? text with
          | none => .error (.malformedPolicy path)
          | some policy => .ok policy

/-- Load the policy that a path leads to. -/
def load (directory : Directory) (path : String) : Except SetupError Policy :=
  ofEntry path (directory.lookup? path)

end Policy

end Precommit
