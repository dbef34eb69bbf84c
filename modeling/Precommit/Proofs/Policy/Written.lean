import Mathlib.Data.List.Perm.Subperm
import Precommit.Policy.Load
import Precommit.Proofs.Entries
import Precommit.Proofs.Text.Utf8
import Precommit.Proofs.Toml.Document

/-!
# Policies as they may be written

A policy is written in sections, which may come in any order, as may the fields of each. A
field that has its built-in value may be left out, and so may a section without fields. Every
such file is loaded as the policy that was written (`Policy.load_written`), so no field is
mistaken for another, and no field that was left out gets the value of another.
-/

namespace Precommit

open Toml

namespace Toml

namespace Value

/-- An array of strings. -/
def ofStrings (texts : List String) : Value :=
  .array (texts.map .string)

theorem strings?_ofStrings (texts : List String) : (ofStrings texts).strings? = some texts :=
  mapM_map_eq_some fun _ _ => rfl

theorem natural?_integer {number : Nat} (bounded : number ≤ 2 ^ 63 - 1) :
    natural? (.integer number) = some number := by
  rw [natural?, if_pos, Int.toNat_natCast]
  simp
  omega

theorem fields?_table {entries : Table} {names : List String}
    (known : ∀ entry ∈ entries, entry.1 ∈ names) (origin : TableOrigin) :
    (table origin entries).fields? names = some (names.map (Table.get? entries)) := by
  rw [fields?, if_pos]
  rw [List.all_eq_true]
  exact fun entry member => List.contains_iff_mem.2 (known entry member)

end Value

end Toml

/-- The fields of a policy on scanning, with what is written for them. -/
def ScanPolicy.fields (scan : ScanPolicy) : Table :=
  [("governance_files", .ofStrings scan.governanceFiles),
    ("excluded_dirs", .ofStrings scan.excludedDirs),
    ("extensions", .ofStrings scan.extensions),
    ("source_extension", .string scan.sourceExtension),
    ("test_suffixes", .ofStrings scan.testSuffixes),
    ("secret_exempt", .ofStrings scan.secretExempt),
    ("excerpt_len", .integer scan.excerptLength)]

/-- The fields of a policy on commit messages, with what is written for them. -/
def CommitPolicy.fields (commit : CommitPolicy) : Table :=
  [("types", .ofStrings commit.types),
    ("scopes", .ofStrings commit.scopes),
    ("max_subject_len", .integer commit.maxSubjectLength)]

/-- The fields of a policy on phrases, with what is written for them. -/
def PhrasePolicy.fields (rules : PhrasePolicy) : Table :=
  [("extra_forbidden_phrases", .ofStrings rules.extraForbiddenPhrases)]

namespace Policy

/-- The fields of the section with the name. -/
def fields (policy : Policy) (name : String) : Table :=
  match name with
  | "scan" => policy.scan.fields
  | "commit" => policy.commit.fields
  | "rules" => policy.rules.fields
  | _ => []

/--
The ways to divide a policy into sections with entries, some fields being omitted, all of which
have their built-in values. The sections that are there are different ones, each with all of
its other fields, and a section that is not there has no other fields.
-/
structure HasSections (policy : Policy) (omitted : String → String → Bool)
    (sections : List (String × Table)) : Prop where
  agrees : ∀ name key, omitted name key = true →
    (policy.fields name).lookup key = (fields {} name).lookup key
  names : (sections.map Prod.fst).Subperm sectionNames
  entries : ∀ name entries, (name, entries) ∈ sections →
    entries.Perm ((policy.fields name).filter fun field => !omitted name field.1)
  absent : ∀ name ∈ sectionNames, name ∉ sections.map Prod.fst →
    (policy.fields name).filter (fun field => !omitted name field.1) = []

end Policy

namespace Toml

/-- What remains of some fields when those that are omitted have their built-in values. -/
structure Remains (fields builtinFields : Table) (omitted : String → Bool) (entries : Table) :
    Prop where
  distinct : (fields.map Prod.fst).Nodup
  agrees : ∀ key, omitted key = true → fields.lookup key = builtinFields.lookup key
  entries : entries.Perm (fields.filter fun field => !omitted field.1)

namespace Remains

variable {fields builtinFields entries : Table} {omitted : String → Bool} {key : String}

theorem entries_distinct (remains : Remains fields builtinFields omitted entries) :
    (entries.map Prod.fst).Nodup :=
  (remains.entries.map Prod.fst).nodup_iff.2
    (remains.distinct.sublist (List.filter_sublist.map Prod.fst))

/-- A field is read as it was, whether it was written or left out. -/
theorem fieldOr {α : Type} (remains : Remains fields builtinFields omitted entries)
    {field builtinField : Value} {value builtin : α} {read? : Value → Option α}
    (found : fields.lookup key = some field) (reads : read? field = some value)
    (builtinFound : builtinFields.lookup key = some builtinField)
    (builtinReads : read? builtinField = some builtin) :
    Value.fieldOr builtin read? (Table.get? entries key) = some value := by
  have filtered : Table.get? entries key = if !omitted key then some field else none := by
    rw [Table.get?, lookup_eq_of_perm remains.entries_distinct remains.entries,
      lookup_filter (!omitted ·), found]
  rw [filtered]
  by_cases leftOut : omitted key = true
  · -- What is read in its place is the built-in value, and so was the field.
    have same := remains.agrees key leftOut
    rw [found, builtinFound, Option.some_inj] at same
    rw [same, builtinReads] at reads
    simp [leftOut, Value.fieldOr, reads]
  · simp [leftOut, Value.fieldOr, reads]

theorem strings (remains : Remains fields builtinFields omitted entries)
    {texts builtin : List String} (found : fields.lookup key = some (.ofStrings texts))
    (builtinFound : builtinFields.lookup key = some (.ofStrings builtin)) :
    Value.fieldOr builtin Value.strings? (Table.get? entries key) = some texts :=
  remains.fieldOr found (Value.strings?_ofStrings texts) builtinFound
    (Value.strings?_ofStrings builtin)

theorem natural (remains : Remains fields builtinFields omitted entries)
    {number builtin : Nat} (bounded : number ≤ 2 ^ 63 - 1) (builtinBounded : builtin ≤ 2 ^ 63 - 1)
    (found : fields.lookup key = some (.integer number))
    (builtinFound : builtinFields.lookup key = some (.integer builtin)) :
    Value.fieldOr builtin Value.natural? (Table.get? entries key) = some number :=
  remains.fieldOr found (Value.natural?_integer bounded) builtinFound
    (Value.natural?_integer builtinBounded)

theorem fields? (remains : Remains fields builtinFields omitted entries) (origin : TableOrigin) :
    (Value.table origin entries).fields? (fields.map Prod.fst) =
      some ((fields.map Prod.fst).map (Table.get? entries)) :=
  Value.fields?_table (fun _ member =>
    List.mem_map_of_mem (List.mem_filter.1 (remains.entries.mem_iff.1 member)).1) origin

end Remains

end Toml

section Sections

variable {omitted : String → Bool} {entries : Table} {origin : TableOrigin}

theorem ScanPolicy.ofValue?_table {scan : ScanPolicy} (bounded : scan.excerptLength ≤ 2 ^ 63 - 1)
    (remains : Remains scan.fields (fields {}) omitted entries) :
    ofValue? (.table origin entries) = some scan := by
  have read := remains.fields? origin
  rw [show scan.fields.map Prod.fst = fieldNames from rfl] at read
  have governanceFiles := remains.strings
    (show scan.fields.lookup "governance_files" = some (.ofStrings scan.governanceFiles) from rfl) rfl
  have excludedDirs := remains.strings
    (show scan.fields.lookup "excluded_dirs" = some (.ofStrings scan.excludedDirs) from rfl) rfl
  have extensions := remains.strings
    (show scan.fields.lookup "extensions" = some (.ofStrings scan.extensions) from rfl) rfl
  have sourceExtension := remains.fieldOr
    (show scan.fields.lookup "source_extension" = some (.string scan.sourceExtension) from rfl)
    (show Value.string? _ = some scan.sourceExtension from rfl) rfl rfl
  have testSuffixes := remains.strings
    (show scan.fields.lookup "test_suffixes" = some (.ofStrings scan.testSuffixes) from rfl) rfl
  have secretExempt := remains.strings
    (show scan.fields.lookup "secret_exempt" = some (.ofStrings scan.secretExempt) from rfl) rfl
  have excerptLength := remains.natural bounded (show 60 ≤ 2 ^ 63 - 1 by decide)
    (show scan.fields.lookup "excerpt_len" = some (.integer scan.excerptLength) from rfl) rfl
  rw [ofValue?, read]
  simp only [fieldNames, List.map_cons, List.map_nil, Option.bind_eq_bind, Option.bind_some,
    governanceFiles, excludedDirs, extensions, sourceExtension, testSuffixes, secretExempt,
    excerptLength]
  rfl

theorem CommitPolicy.ofValue?_table {commit : CommitPolicy}
    (bounded : commit.maxSubjectLength ≤ 2 ^ 63 - 1)
    (remains : Remains commit.fields (fields {}) omitted entries) :
    ofValue? (.table origin entries) = some commit := by
  have read := remains.fields? origin
  rw [show commit.fields.map Prod.fst = fieldNames from rfl] at read
  have types := remains.strings
    (show commit.fields.lookup "types" = some (.ofStrings commit.types) from rfl) rfl
  have scopes := remains.strings
    (show commit.fields.lookup "scopes" = some (.ofStrings commit.scopes) from rfl) rfl
  have maxSubjectLength := remains.natural bounded (show 72 ≤ 2 ^ 63 - 1 by decide)
    (show commit.fields.lookup "max_subject_len" = some (.integer commit.maxSubjectLength)
      from rfl) rfl
  rw [ofValue?, read]
  simp only [fieldNames, List.map_cons, List.map_nil, Option.bind_eq_bind, Option.bind_some,
    types, scopes, maxSubjectLength]
  rfl

theorem PhrasePolicy.ofValue?_table {rules : PhrasePolicy}
    (remains : Remains rules.fields (fields {}) omitted entries) :
    ofValue? (.table origin entries) = some rules := by
  have read := remains.fields? origin
  rw [show rules.fields.map Prod.fst = fieldNames from rfl] at read
  have extraForbiddenPhrases := remains.strings
    (show rules.fields.lookup "extra_forbidden_phrases" =
      some (.ofStrings rules.extraForbiddenPhrases) from rfl) rfl
  rw [ofValue?, read]
  simp only [fieldNames, List.map_cons, List.map_nil, Option.bind_eq_bind, Option.bind_some,
    extraForbiddenPhrases]
  rfl

end Sections

namespace Policy

variable {policy : Policy} {omitted : String → String → Bool} {sections : List (String × Table)}

theorem fields_distinct {name : String} (listed : name ∈ sectionNames) :
    ((policy.fields name).map Prod.fst).Nodup := by
  simp only [sectionNames, List.mem_cons, List.not_mem_nil, or_false] at listed
  rcases listed with rfl | rfl | rfl
  · show ScanPolicy.fieldNames.Nodup
    decide
  · show CommitPolicy.fieldNames.Nodup
    decide
  · show PhrasePolicy.fieldNames.Nodup
    decide

theorem HasSections.distinct (divided : policy.HasSections omitted sections) :
    (sections.map Prod.fst).Nodup := by
  rcases divided.names with ⟨names, reordered, sublist⟩
  exact reordered.nodup_iff.1 ((show sectionNames.Nodup by decide).sublist sublist)

theorem HasSections.remains (divided : policy.HasSections omitted sections) {name : String}
    {entries : Table} (member : (name, entries) ∈ sections) :
    Remains (policy.fields name) (fields {} name) (omitted name) entries where
  distinct := fields_distinct (divided.names.subset (List.mem_map_of_mem member))
  agrees := divided.agrees name
  entries := divided.entries name entries member

/-- A section that is not there is read as one without entries. -/
theorem HasSections.exists_remains (divided : policy.HasSections omitted sections) {name : String}
    (listed : name ∈ sectionNames) {α : Type} {builtin : α} {read? : Value → Option α}
    (empty : read? (.table .header []) = some builtin) :
    ∃ entries, Remains (policy.fields name) (fields {} name) (omitted name) entries ∧
      Value.fieldOr builtin read? (Table.get?
        (sections.map fun (name, entries) => (name, .table .header entries)) name) =
          read? (.table .header entries) := by
  rw [Table.get?, lookup_map]
  cases found : sections.lookup name with
  | some entries =>
      exact ⟨entries, divided.remains ((lookup_eq_some_iff_mem divided.distinct).1 found), rfl⟩
  | none =>
      refine ⟨[], ⟨fields_distinct listed, divided.agrees name, ?_⟩, empty.symm⟩
      rw [divided.absent name listed (lookup_eq_none_iff_not_mem.1 found)]

theorem HasSections.ofTable? (divided : policy.HasSections omitted sections)
    (excerpt : policy.scan.excerptLength ≤ 2 ^ 63 - 1)
    (subject : policy.commit.maxSubjectLength ≤ 2 ^ 63 - 1) :
    ofTable? (sections.map fun (name, entries) => (name, .table .header entries)) =
      some policy := by
  rcases divided.exists_remains (show "scan" ∈ sectionNames by decide)
    (show ScanPolicy.ofValue? (.table .header []) = some {} from rfl) with ⟨scan, scanned, read⟩
  rw [ScanPolicy.ofValue?_table excerpt scanned] at read
  rcases divided.exists_remains (show "commit" ∈ sectionNames by decide)
    (show CommitPolicy.ofValue? (.table .header []) = some {} from rfl) with
    ⟨commit, committed, read'⟩
  rw [CommitPolicy.ofValue?_table subject committed] at read'
  rcases divided.exists_remains (show "rules" ∈ sectionNames by decide)
    (show PhrasePolicy.ofValue? (.table .header []) = some {} from rfl) with ⟨rules, ruled, read''⟩
  rw [PhrasePolicy.ofValue?_table ruled] at read''
  have known : ∀ entry ∈ sections.map fun (name, entries) => (name, Value.table .header entries),
      entry.1 ∈ sectionNames := by
    intro entry member
    rcases List.mem_map.1 member with ⟨part, listed, rfl⟩
    exact divided.names.subset (List.mem_map_of_mem listed)
  rw [Policy.ofTable?, Value.fields?_table known]
  simp only [sectionNames, List.map_cons, List.map_nil, Option.bind_eq_bind, Option.bind_some,
    read, read', read'']
  rfl

theorem HasSections.ofText? (divided : policy.HasSections omitted sections)
    (excerpt : policy.scan.excerptLength ≤ 2 ^ 63 - 1)
    (subject : policy.commit.maxSubjectLength ≤ 2 ^ 63 - 1) {text : List Char}
    (written : WritesSections sections text) : ofText? text = some policy := by
  rw [Policy.ofText?, written.parse? divided.distinct fun part member =>
    (divided.remains member).entries_distinct]
  exact divided.ofTable? excerpt subject

theorem isBareKey_of_mem_fields {name : String} (listed : name ∈ sectionNames) :
    ∀ field ∈ policy.fields name, IsBareKey field.1.toList := by
  have bare : ∀ names ∈ [ScanPolicy.fieldNames, CommitPolicy.fieldNames, PhrasePolicy.fieldNames],
      ∀ key ∈ names, IsBareKey key.toList := by
    decide
  intro field member
  have named : field.1 ∈ (policy.fields name).map Prod.fst := List.mem_map_of_mem member
  simp only [sectionNames, List.mem_cons, List.not_mem_nil, or_false] at listed
  rcases listed with rfl | rfl | rfl
  · exact bare ScanPolicy.fieldNames (by simp) field.1 named
  · exact bare CommitPolicy.fieldNames (by simp) field.1 named
  · exact bare PhrasePolicy.fieldNames (by simp) field.1 named

theorem exists_writesValue {name : String} (listed : name ∈ sectionNames) :
    ∀ field ∈ policy.fields name, ∃ text, WritesValue field.2 text := by
  have strings (texts : List String) : ∃ text, WritesValue (.ofStrings texts) text := by
    rcases exists_writesItems texts with ⟨text, written⟩
    exact ⟨_, .strings written⟩
  have string (text : String) : ∃ written, WritesValue (.string text) written := by
    rcases exists_writesString text with ⟨_, written⟩
    exact ⟨_, .string written⟩
  have natural (number : Nat) : ∃ text, WritesValue (.integer number) text := ⟨_, .natural number⟩
  simp only [sectionNames, List.mem_cons, List.not_mem_nil, or_false] at listed
  rcases listed with rfl | rfl | rfl
  · simp [fields, ScanPolicy.fields, strings, string, natural]
  · simp [fields, CommitPolicy.fields, strings, natural]
  · simp [fields, PhrasePolicy.fields, strings]

theorem hasSections_fields : policy.HasSections (fun _ _ => false)
    (sectionNames.map fun name => (name, policy.fields name)) where
  agrees := fun _ _ leftOut => nomatch leftOut
  names := List.Subperm.refl sectionNames
  entries := by
    intro name entries member
    rcases List.mem_map.1 member with ⟨_, _, same⟩
    cases same
    exact .of_eq (List.filter_true _).symm
  absent := by
    intro name listed missing
    rw [List.map_map] at missing
    exact absurd (List.mem_map_of_mem listed) missing

/-- Every policy can be written, with all of its fields. -/
theorem exists_ofText?_eq (excerpt : policy.scan.excerptLength ≤ 2 ^ 63 - 1)
    (subject : policy.commit.maxSubjectLength ≤ 2 ^ 63 - 1) :
    ∃ text, ofText? text = some policy := by
  have written : ∃ text, WritesSections
      (sectionNames.map fun name => (name, policy.fields name)) text := by
    apply exists_writesSections
    · have bare : ∀ name ∈ sectionNames, IsBareKey name.toList := by decide
      intro part member
      rcases List.mem_map.1 member with ⟨name, listed, rfl⟩
      exact bare name listed
    · intro part member field listed'
      rcases List.mem_map.1 member with ⟨name, listed, rfl⟩
      exact ⟨isBareKey_of_mem_fields listed field listed',
        exists_writesValue listed field listed'⟩
  rcases written with ⟨text, written⟩
  exact ⟨text, hasSections_fields.ofText? excerpt subject written⟩

/--
A file that writes a policy, perhaps without some of the fields that have their built-in
values, is loaded as this policy.
-/
theorem load_written (excerpt : policy.scan.excerptLength ≤ 2 ^ 63 - 1)
    (subject : policy.commit.maxSubjectLength ≤ 2 ^ 63 - 1)
    (divided : policy.HasSections omitted sections) {text : List Char}
    (written : WritesSections sections text) {directory : Directory} {path : String}
    (found : directory.lookup? path = some (.file (Utf8.encode text))) :
    load directory path = .ok policy := by
  simp only [load, found, ofEntry, Utf8.decode?_encode,
    divided.ofText? excerpt subject written]

/--
Two fields of two sections are written, with a comment, a blank line and escape sequences, and
all others are left out.
-/
theorem load_two_fields :
    load (.file "audit.toml" (Utf8.encode ("[commit]\nmax_subject_len = 50 # short\n\n" ++
        "[scan]\nsource_extension=\"k\\\"\\u007A\"\n").toList) .empty) "audit.toml" =
      .ok { scan := { sourceExtension := "k\"z" }, commit := { maxSubjectLength := 50 } } := by
  have divided : HasSections
      { scan := { sourceExtension := "k\"z" }, commit := { maxSubjectLength := 50 } }
      (fun _ key => key != "source_extension" && key != "max_subject_len")
      [("commit", [("max_subject_len", .integer 50)]),
        ("scan", [("source_extension", .string "k\"z")])] := by
    refine ⟨?_, by decide, ?_, ?_⟩
    · intro name key leftOut
      rw [Bool.and_eq_true, bne_iff_ne, bne_iff_ne] at leftOut
      have source : (key == "source_extension") = false := beq_eq_false_iff_ne.2 leftOut.1
      have subject : (key == "max_subject_len") = false := beq_eq_false_iff_ne.2 leftOut.2
      unfold Policy.fields
      split
      · simp [ScanPolicy.fields, List.lookup_cons, source]
      · simp [CommitPolicy.fields, List.lookup_cons, subject]
      · rfl
      · rfl
    · intro name entries member
      simp only [List.mem_cons, Prod.mk.injEq, List.not_mem_nil, or_false] at member
      rcases member with ⟨rfl, rfl⟩ | ⟨rfl, rfl⟩
      · exact .of_eq rfl
      · exact .of_eq rfl
    · intro name listed missing
      simp only [sectionNames, List.mem_cons, List.not_mem_nil, or_false] at listed
      rcases listed with rfl | rfl | rfl
      · exact absurd (show "scan" ∈ ["commit", "scan"] by decide) missing
      · exact absurd (show "commit" ∈ ["commit", "scan"] by decide) missing
      · rfl
  have pieces : List.Forall₂ WritesCharacter ['k', '"', 'z']
      [['k'], ['\\', '"'], ['\\', 'u', '0', '0', '7', 'A']] :=
    .cons (.plain (by decide)) (.cons (.escape (by decide))
      (.cons (.short rfl ⟨2, by decide⟩) .nil))
  have string : WritesString "k\"z" _ := .mk pieces
  have lineEnd : IsLineRest ['\n'] := .mk .nil .none .lineFeed
  have space : IsSpaces [' '] := by decide
  have comment : IsLineRest ([' '] ++ ('#' :: [' ', 's', 'h', 'o', 'r', 't'] ++ ['\n'])) :=
    .mk space (.some (by decide)) .lineFeed
  have lines : List.Forall₂ WritesLine
      [.header "commit", .entry "max_subject_len" (.integer 50), .header "scan",
        .entry "source_extension" (.string "k\"z")] _ :=
    .cons (.header .nil .nil (by decide) .nil lineEnd)
      (.cons (.entry .nil (by decide) space space (.natural 50) comment)
        (.cons (.header (.line lineEnd .nil) .nil (by decide) .nil lineEnd)
          (.cons (.entry .nil (by decide) .nil .nil (.string string) lineEnd) .nil)))
  have written : WritesSections
      [("commit", [("max_subject_len", .integer 50)]),
        ("scan", [("source_extension", .string "k\"z")])] _ :=
    .mk lines .nil
  exact load_written (by decide) (by decide) divided written rfl

end Policy

end Precommit
