/-!
# Policies

A policy says which files are scanned, which of them are exempt from which checks,
what a commit subject looks like, and which phrases are forbidden beyond the
built-in ones. The default value of each field is the built-in policy.
-/

namespace Precommit

/-- Which files are scanned, and which are exempt from which checks. -/
structure ScanPolicy where
  /-- Base names of policy documents, which may quote forbidden phrases. -/
  governanceFiles : List String := ["CLAUDE.md", "Design-Doc.md", "SKILL.md", "remediation.md"]
  /-- Names of directories that exclude every path through them. -/
  excludedDirs : List String :=
    [".mypy_cache", "__pycache__", ".git", "DerivedData", ".build", "xcuserdata", "node_modules"]
  /-- The extensions, without the dot, of the files that are scanned at all. -/
  extensions : List String := ["swift", "md", "txt", "json", "yaml", "yml", "ahap"]
  /-- The extension of source files, to which the code checks apply. -/
  sourceExtension : String := "swift"
  /-- Endings of the base names of test files. -/
  testSuffixes : List String := ["Tests.swift", "TestCase.swift"]
  /-- Globs for paths that are exempt from the scan for secrets. -/
  secretExempt : List String := ["docs/**", ".claude/skills/**/references/**"]
  /-- The most characters of a source line that a finding quotes. -/
  excerptLength : Nat := 60
deriving DecidableEq, Repr

/-- What a commit subject looks like. -/
structure CommitPolicy where
  types : List String := ["feat", "fix", "refactor", "test", "chore", "docs"]
  scopes : List String :=
    ["coordinator", "audio", "haptics", "webhook", "ch1", "ch2", "ch3", "ch4", "ch5", "ch6",
      "assets", "tests"]
  /-- The most characters of a subject. -/
  maxSubjectLength : Nat := 72
deriving DecidableEq, Repr

/-- Rules beyond the built-in ones. -/
structure PhrasePolicy where
  /-- Patterns of further forbidden phrases; case does not matter. -/
  extraForbiddenPhrases : List String := []
deriving DecidableEq, Repr

/-- A policy for files and commit messages. -/
structure Policy where
  scan : ScanPolicy := {}
  commit : CommitPolicy := {}
  rules : PhrasePolicy := {}
deriving DecidableEq, Repr

end Precommit
