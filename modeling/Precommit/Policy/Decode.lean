import Precommit.Policy.Basic
import Precommit.Toml.Value

/-!
# Policies from tables

A policy is written as a table with a section for each part. Fields that are left out
keep their built-in values; a key that names no field, or a value of another type than
its field, spoils the whole policy. A section may also be written as an array of its
fields in order, of which the last ones may be left out and surplus items are ignored.
-/

namespace Precommit

namespace Toml

namespace Value

/-- The text of a string. -/
def string? : Value → Option String
  | .string text => some text
  | _ => none

/-- The texts of an array of strings. -/
def strings? : Value → Option (List String)
  | .array items => items.mapM string?
  | _ => none

/-- An integer that is not negative and fits 64 bits. -/
def natural? : Value → Option Nat
  | .integer value => if 0 ≤ value && value < 0x10000000000000000 then some value.toNat else none
  | _ => none

/-- The values of the named fields of a section, each if it is present. -/
def fields? (names : List String) : Value → Option (List (Option Value))
  | .table _ entries =>
      if entries.all fun entry => names.contains entry.1 then
        some (names.map fun name => Table.get? entries name)
      else none
  | .array items => some ((List.range names.length).map fun index => items[index]?)
  | .tables items => some ((List.range names.length).map fun index => items[index]?)
  | _ => none

/-- The value of a field, which is the given one if the field is left out. -/
def fieldOr {α : Type} (builtin : α) (read? : Value → Option α) : Option Value → Option α
  | none => some builtin
  | some value => read? value

end Value

end Toml

open Toml

namespace ScanPolicy

def fieldNames : List String :=
  ["governance_files", "excluded_dirs", "extensions", "source_extension", "test_suffixes",
    "secret_exempt", "excerpt_len"]

/-- Read the section on scanning. -/
def ofValue? (value : Value) : Option ScanPolicy := do
  let builtin : ScanPolicy := {}
  match ← value.fields? fieldNames with
  | [governanceFiles, excludedDirs, extensions, sourceExtension, testSuffixes, secretExempt,
      excerptLength] =>
      pure
        { governanceFiles := ← Value.fieldOr builtin.governanceFiles Value.strings? governanceFiles
          excludedDirs := ← Value.fieldOr builtin.excludedDirs Value.strings? excludedDirs
          extensions := ← Value.fieldOr builtin.extensions Value.strings? extensions
          sourceExtension := ← Value.fieldOr builtin.sourceExtension Value.string? sourceExtension
          testSuffixes := ← Value.fieldOr builtin.testSuffixes Value.strings? testSuffixes
          secretExempt := ← Value.fieldOr builtin.secretExempt Value.strings? secretExempt
          excerptLength := ← Value.fieldOr builtin.excerptLength Value.natural? excerptLength }
  | _ => none

end ScanPolicy

namespace CommitPolicy

def fieldNames : List String :=
  ["types", "scopes", "max_subject_len"]

/-- Read the section on commit messages. -/
def ofValue? (value : Value) : Option CommitPolicy := do
  let builtin : CommitPolicy := {}
  match ← value.fields? fieldNames with
  | [types, scopes, maxSubjectLength] =>
      pure
        { types := ← Value.fieldOr builtin.types Value.strings? types
          scopes := ← Value.fieldOr builtin.scopes Value.strings? scopes
          maxSubjectLength :=
            ← Value.fieldOr builtin.maxSubjectLength Value.natural? maxSubjectLength }
  | _ => none

end CommitPolicy

namespace PhrasePolicy

def fieldNames : List String :=
  ["extra_forbidden_phrases"]

/-- Read the section on further rules. -/
def ofValue? (value : Value) : Option PhrasePolicy := do
  match ← value.fields? fieldNames with
  | [extraForbiddenPhrases] =>
      pure { extraForbiddenPhrases := ← Value.fieldOr [] Value.strings? extraForbiddenPhrases }
  | _ => none

end PhrasePolicy

namespace Policy

def sectionNames : List String :=
  ["scan", "commit", "rules"]

/-- Read a policy from a document. -/
def ofTable? (table : Table) : Option Policy := do
  match ← (Value.table .header table).fields? sectionNames with
  | [scan, commit, rules] =>
      pure
        { scan := ← Value.fieldOr {} ScanPolicy.ofValue? scan
          commit := ← Value.fieldOr {} CommitPolicy.ofValue? commit
          rules := ← Value.fieldOr {} PhrasePolicy.ofValue? rules }
  | _ => none

end Policy

end Precommit
