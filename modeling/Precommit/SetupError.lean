/-!
# Errors in setting up an audit

Only what a user supplies can fail: the policy file, a pattern in it or a glob in it.
-/

namespace Precommit

/-- What can be wrong with a policy that decodes. -/
inductive SetupError
  /-- A pattern of a rule table cannot be read. -/
  | invalidPattern (table pattern : String)
  /-- A glob cannot be read, or a list of globs is too much together. -/
  | invalidGlob (glob : String)
  /-- The policy file exists but is not a readable text. -/
  | unreadablePolicy (path : String)
  /-- The policy file is not a policy. -/
  | malformedPolicy (path : String)
deriving DecidableEq, Repr

namespace SetupError

def message : SetupError → String
  | .invalidPattern table pattern => "table '" ++ table ++ "' has invalid regex '" ++ pattern ++ "'"
  | .invalidGlob glob => "invalid glob '" ++ glob ++ "'"
  | .unreadablePolicy path => "read config " ++ path
  | .malformedPolicy path => "parse config " ++ path

end SetupError

end Precommit
