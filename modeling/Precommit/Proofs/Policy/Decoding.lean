import Precommit.Proofs.Policy.Written

/-!
# Which documents are policies

A document is a policy exactly if its keys are sections, the keys of its sections are fields,
and each field has a value of the kind that it needs. Each field of the policy has the value that
the document has for it, or else its built-in value, whatever else the document says. Any other
document is refused as a whole.
-/

namespace Precommit

open Toml

namespace Toml

/-- What values there may be under each key. -/
abbrev Schema := List (String × (Value → Prop))

namespace Value

def IsTexts (value : Value) : Prop :=
  ∃ texts, value = .ofStrings texts

def IsText (value : Value) : Prop :=
  ∃ text, value = .string text

def IsNatural (value : Value) : Prop :=
  ∃ number : Nat, number < 2 ^ 64 ∧ value = .integer number

end Value

namespace Table

/-- Every key of the table is in the schema, which allows the value under it. -/
def Fits (table : Table) (schema : Schema) : Prop :=
  ∀ key value, table.get? key = some value →
    ∃ allowed, schema.lookup key = some allowed ∧ allowed value

/-- What is under each key, which is what is given where the table has nothing. -/
def fillIn (table builtin : Table) : Table :=
  builtin.map fun field => (field.1, (table.get? field.1).getD field.2)

variable {table : Table} {schema : Schema}

theorem exists_get?_of_mem {key : String} {value : Value} (member : (key, value) ∈ table) :
    ∃ value, table.get? key = some value := by
  apply Option.ne_none_iff_exists'.1
  intro missing
  exact lookup_eq_none_iff_not_mem.1 missing (List.mem_map_of_mem member)

/-- A table fits if its keys are known and each known key has an allowed value, if any. -/
theorem fits_iff (distinct : (schema.map Prod.fst).Nodup) :
    table.Fits schema ↔
      (∀ entry ∈ table, entry.1 ∈ schema.map Prod.fst) ∧
        ∀ field ∈ schema, ∀ value, table.get? field.1 = some value → field.2 value := by
  constructor
  · intro fits
    constructor
    · intro entry member
      rcases exists_get?_of_mem member with ⟨value, found⟩
      rcases fits entry.1 value found with ⟨allowed, listed, _⟩
      exact List.mem_map_of_mem ((lookup_eq_some_iff_mem distinct).1 listed)
    · intro field member value found
      rcases fits field.1 value found with ⟨allowed, listed, holds⟩
      rw [(lookup_eq_some_iff_mem distinct).2 member, Option.some_inj] at listed
      exact listed ▸ holds
  · rintro ⟨known, each⟩ key value found
    rcases List.lookup_eq_some_iff.1 found with ⟨before, after, rfl, _⟩
    have named := known (key, value) (by simp)
    rcases List.mem_map.1 named with ⟨⟨_, allowed⟩, member, rfl⟩
    exact ⟨allowed, (lookup_eq_some_iff_mem distinct).2 member, each _ member value found⟩

end Table

namespace Value

def IsTable (value : Value) : Prop :=
  ∃ origin entries, value = .table origin entries

/-- A table that fits the schema. -/
def IsSection (schema : Schema) (value : Value) : Prop :=
  ∃ origin entries, value = .table origin entries ∧ Table.Fits entries schema

section Fields

variable {α : Type} {read? : Value → Option α} {builtin content : α} {found : Option Value}

theorem exists_fieldOr_iff {allowed : Value → Prop}
    (reads : ∀ value, found = some value →
      ((∃ content, read? value = some content) ↔ allowed value)) :
    (∃ content, fieldOr builtin read? found = some content) ↔
      ∀ value, found = some value → allowed value := by
  cases found with
  | none => simp [fieldOr]
  | some value => simpa [fieldOr] using reads value rfl

/-- What was read is written as it was found, and as the built-in value if nothing was. -/
theorem write_of_fieldOr (write : α → Value)
    (writes : ∀ value content, read? value = some content → value = write content)
    (read : fieldOr builtin read? found = some content) :
    write content = found.getD (write builtin) := by
  cases found with
  | none =>
      rcases Option.some_inj.1 read with rfl
      rfl
  | some value => exact (writes value content read).symm

end Fields

section Kinds

variable {value : Value}

theorem eq_string_of_string? {text : String} (read : value.string? = some text) :
    value = .string text := by
  cases value with
  | string text =>
      rcases Option.some_inj.1 read with rfl
      rfl
  | _ => cases read

theorem eq_ofStrings_of_strings? {texts : List String} (read : value.strings? = some texts) :
    value = .ofStrings texts := by
  cases value with
  | array items =>
      exact congrArg Value.array
        (eq_map_of_mapM_eq_some (fun _ _ read => eq_string_of_string? read) read)
  | _ => cases read

theorem natural?_eq_some_iff {number : Nat} :
    value.natural? = some number ↔ number < 2 ^ 64 ∧ value = .integer number := by
  cases value with
  | integer value =>
      simp only [natural?, Option.ite_none_right_eq_some, Option.some_inj, Bool.and_eq_true,
        decide_eq_true_eq, integer.injEq]
      omega
  | _ => simp [natural?]

theorem exists_strings?_iff : (∃ texts, value.strings? = some texts) ↔ value.IsTexts := by
  constructor
  · rintro ⟨texts, read⟩
    exact ⟨texts, eq_ofStrings_of_strings? read⟩
  · rintro ⟨texts, rfl⟩
    exact ⟨texts, strings?_ofStrings texts⟩

theorem exists_string?_iff : (∃ text, value.string? = some text) ↔ value.IsText := by
  constructor
  · rintro ⟨text, read⟩
    exact ⟨text, eq_string_of_string? read⟩
  · rintro ⟨text, rfl⟩
    exact ⟨text, rfl⟩

theorem exists_natural?_iff : (∃ number, value.natural? = some number) ↔ value.IsNatural := by
  simp only [natural?_eq_some_iff, IsNatural]

end Kinds

end Value

end Toml

/--
The reader of a section takes exactly the tables that fit the schema, and what it reads has the
fields of the table, and for the others the fields of what is built in.
-/
structure DecodesSection {Part : Type} (read? : Value → Option Part) (schema : Schema)
    (fields : Part → Table) (builtin : Part) : Prop where
  exists_iff : ∀ origin entries,
    (∃ part, read? (.table origin entries) = some part) ↔ Table.Fits entries schema
  fields_eq : ∀ origin entries part, read? (.table origin entries) = some part →
    fields part = Table.fillIn entries (fields builtin)

namespace Toml.Value

variable {origin : TableOrigin} {entries : Table} {found : Option Value}

theorem exists_fields?_table_iff {names : List String} {next : List (Option Value) → Prop} :
    (∃ values, (table origin entries).fields? names = some values ∧ next values) ↔
      (∀ entry ∈ entries, entry.1 ∈ names) ∧ next (names.map (Table.get? entries)) := by
  simp only [fields?, Option.ite_none_right_eq_some, Option.some_inj, List.all_eq_true,
    List.contains_iff_mem, and_assoc, exists_and_left, exists_eq_left']

theorem exists_texts_iff {builtin : List String} :
    (∃ texts, fieldOr builtin strings? found = some texts) ↔
      ∀ value, found = some value → value.IsTexts :=
  exists_fieldOr_iff fun _ _ => exists_strings?_iff

theorem exists_text_iff {builtin : String} :
    (∃ text, fieldOr builtin string? found = some text) ↔
      ∀ value, found = some value → value.IsText :=
  exists_fieldOr_iff fun _ _ => exists_string?_iff

theorem exists_natural_iff {builtin : Nat} :
    (∃ number, fieldOr builtin natural? found = some number) ↔
      ∀ value, found = some value → value.IsNatural :=
  exists_fieldOr_iff fun _ _ => exists_natural?_iff

theorem texts_eq {builtin texts : List String}
    (read : fieldOr builtin strings? found = some texts) :
    ofStrings texts = found.getD (ofStrings builtin) :=
  write_of_fieldOr ofStrings (fun _ _ => eq_ofStrings_of_strings?) read

theorem text_eq {builtin text : String} (read : fieldOr builtin string? found = some text) :
    string text = found.getD (string builtin) :=
  write_of_fieldOr string (fun _ _ => eq_string_of_string?) read

theorem natural_eq {builtin number : Nat} (read : fieldOr builtin natural? found = some number) :
    integer number = found.getD (integer builtin) :=
  write_of_fieldOr (fun number : Nat => integer number)
    (fun _ _ read => (natural?_eq_some_iff.1 read).2) read

end Toml.Value

open Toml.Value

namespace ScanPolicy

/-- What a policy on scanning may say. -/
def schema : Schema :=
  [("governance_files", IsTexts), ("excluded_dirs", IsTexts), ("extensions", IsTexts),
    ("source_extension", IsText), ("test_suffixes", IsTexts), ("secret_exempt", IsTexts),
    ("excerpt_len", IsNatural)]

theorem decodes : DecodesSection ofValue? schema fields {} where
  exists_iff := by
    intro origin entries
    rw [Table.fits_iff (show (schema.map Prod.fst).Nodup from show fieldNames.Nodup by decide)]
    simp only [ofValue?, Option.bind_eq_bind, Option.bind_eq_some_iff, exists_fields?_table_iff,
      fieldNames, List.map_cons, List.map_nil, Option.pure_def, Option.some_inj,
      @exists_comm ScanPolicy, exists_and_left, exists_and_right, exists_eq', and_true,
      exists_texts_iff, exists_text_iff, exists_natural_iff]
    simp only [schema, List.map_cons, List.map_nil, List.forall_mem_cons, List.not_mem_nil,
      false_imp_iff, implies_true, and_true]
  fields_eq := by
    intro origin entries scan read
    simp only [ofValue?, Option.bind_eq_bind, Option.bind_eq_some_iff, exists_fields?_table_iff,
      fieldNames, List.map_cons, List.map_nil, Option.pure_def, Option.some_inj] at read
    rcases read with ⟨_, _, governanceFiles, _, excludedDirs, _, extensions, _, sourceExtension, _,
      testSuffixes, _, secretExempt, _, excerptLength, rfl⟩
    simp only [fields, Table.fillIn, List.map_cons, List.map_nil, texts_eq governanceFiles,
      texts_eq excludedDirs, texts_eq extensions, text_eq sourceExtension, texts_eq testSuffixes,
      texts_eq secretExempt, natural_eq excerptLength]

end ScanPolicy

namespace CommitPolicy

/-- What a policy on commit messages may say. -/
def schema : Schema :=
  [("types", IsTexts), ("scopes", IsTexts), ("max_subject_len", IsNatural)]

theorem decodes : DecodesSection ofValue? schema fields {} where
  exists_iff := by
    intro origin entries
    rw [Table.fits_iff (show (schema.map Prod.fst).Nodup from show fieldNames.Nodup by decide)]
    simp only [ofValue?, Option.bind_eq_bind, Option.bind_eq_some_iff, exists_fields?_table_iff,
      fieldNames, List.map_cons, List.map_nil, Option.pure_def, Option.some_inj,
      @exists_comm CommitPolicy, exists_and_left, exists_and_right, exists_eq', and_true,
      exists_texts_iff, exists_natural_iff]
    simp only [schema, List.map_cons, List.map_nil, List.forall_mem_cons, List.not_mem_nil,
      false_imp_iff, implies_true, and_true]
  fields_eq := by
    intro origin entries commit read
    simp only [ofValue?, Option.bind_eq_bind, Option.bind_eq_some_iff, exists_fields?_table_iff,
      fieldNames, List.map_cons, List.map_nil, Option.pure_def, Option.some_inj] at read
    rcases read with ⟨_, _, types, _, scopes, _, maxSubjectLength, rfl⟩
    simp only [fields, Table.fillIn, List.map_cons, List.map_nil, texts_eq types, texts_eq scopes,
      natural_eq maxSubjectLength]

end CommitPolicy

namespace PhrasePolicy

/-- What a policy on phrases may say. -/
def schema : Schema :=
  [("extra_forbidden_phrases", IsTexts)]

theorem decodes : DecodesSection ofValue? schema fields {} where
  exists_iff := by
    intro origin entries
    rw [Table.fits_iff (show (schema.map Prod.fst).Nodup from show fieldNames.Nodup by decide)]
    simp only [ofValue?, Option.bind_eq_bind, Option.bind_eq_some_iff, exists_fields?_table_iff,
      fieldNames, List.map_cons, List.map_nil, Option.pure_def, Option.some_inj,
      @exists_comm PhrasePolicy, exists_and_left, exists_eq', and_true, exists_texts_iff]
    simp only [schema, List.map_cons, List.map_nil, List.forall_mem_cons, List.not_mem_nil,
      false_imp_iff, implies_true, and_true]
  fields_eq := by
    intro origin entries rules read
    simp only [ofValue?, Option.bind_eq_bind, Option.bind_eq_some_iff, exists_fields?_table_iff,
      fieldNames, List.map_cons, List.map_nil, Option.pure_def, Option.some_inj] at read
    rcases read with ⟨_, _, extraForbiddenPhrases, rfl⟩
    simp only [fields, Table.fillIn, List.map_cons, List.map_nil, texts_eq extraForbiddenPhrases]

end PhrasePolicy

/-- The entries of a section of a document, which are none if it has no such section. -/
def Toml.Table.sectionEntries (table : Table) (name : String) : Table :=
  match table.get? name with
  | some (.table _ entries) => entries
  | _ => []

section Documents

variable {Part : Type} {read? : Value → Option Part} {schema : Schema} {fields : Part → Table}
  {builtin part : Part} {table : Table} {name : String}

theorem DecodesSection.exists_fieldOr_iff (decodes : DecodesSection read? schema fields builtin)
    (isTable : ∀ value, table.get? name = some value → value.IsTable) :
    (∃ part, fieldOr builtin read? (table.get? name) = some part) ↔
      ∀ value, table.get? name = some value → value.IsSection schema := by
  apply Value.exists_fieldOr_iff
  intro value found
  rcases isTable value found with ⟨origin, entries, rfl⟩
  rw [decodes.exists_iff origin entries]
  constructor
  · intro fits
    exact ⟨origin, entries, rfl, fits⟩
  · rintro ⟨_, _, same, fits⟩
    cases same
    exact fits

/-- A section that is left out is one without entries. -/
theorem DecodesSection.fields_of_fieldOr (decodes : DecodesSection read? schema fields builtin)
    (isTable : ∀ value, table.get? name = some value → value.IsTable)
    (read : fieldOr builtin read? (table.get? name) = some part) :
    fields part = Table.fillIn (table.sectionEntries name) (fields builtin) := by
  rw [Table.sectionEntries]
  cases found : table.get? name with
  | none =>
      rw [found] at read
      rcases Option.some_inj.1 read with rfl
      simp [Table.fillIn, Table.get?]
  | some value =>
      rcases isTable value found with ⟨origin, entries, rfl⟩
      rw [found] at read
      exact decodes.fields_eq origin entries part read

end Documents

namespace Policy

/-- What a policy may say. -/
def schema : Schema :=
  [("scan", IsSection ScanPolicy.schema), ("commit", IsSection CommitPolicy.schema),
    ("rules", IsSection PhrasePolicy.schema)]

variable {table : Table}

theorem exists_ofTable?_iff
    (tables : ∀ name ∈ sectionNames, ∀ value, table.get? name = some value → value.IsTable) :
    (∃ policy, ofTable? table = some policy) ↔ table.Fits schema := by
  simp only [sectionNames, List.forall_mem_cons] at tables
  rcases tables with ⟨scan, commit, rules, _⟩
  rw [Table.fits_iff (show (schema.map Prod.fst).Nodup from show sectionNames.Nodup by decide)]
  simp only [ofTable?, Option.bind_eq_bind, Option.bind_eq_some_iff, exists_fields?_table_iff,
    sectionNames, List.map_cons, List.map_nil, Option.pure_def, Option.some_inj,
    @exists_comm Policy, exists_and_left, exists_and_right, exists_eq', and_true,
    ScanPolicy.decodes.exists_fieldOr_iff scan, CommitPolicy.decodes.exists_fieldOr_iff commit,
    PhrasePolicy.decodes.exists_fieldOr_iff rules]
  simp only [schema, List.map_cons, List.map_nil, List.forall_mem_cons, List.not_mem_nil,
    false_imp_iff, implies_true, and_true]

theorem fields_of_ofTable?
    (tables : ∀ name ∈ sectionNames, ∀ value, table.get? name = some value → value.IsTable)
    {policy : Policy} (read : ofTable? table = some policy) :
    ∀ name ∈ sectionNames,
      policy.fields name = Table.fillIn (table.sectionEntries name) (fields {} name) := by
  simp only [sectionNames, List.forall_mem_cons] at tables
  rcases tables with ⟨scanTable, commitTable, rulesTable, _⟩
  simp only [ofTable?, Option.bind_eq_bind, Option.bind_eq_some_iff, exists_fields?_table_iff,
    sectionNames, List.map_cons, List.map_nil, Option.pure_def, Option.some_inj] at read
  rcases read with ⟨_, scan, scanned, commit, committed, rules, ruled, rfl⟩
  simp only [sectionNames, List.forall_mem_cons, List.not_mem_nil, false_imp_iff, implies_true,
    and_true]
  refine ⟨?_, ?_, ?_⟩
  · exact ScanPolicy.decodes.fields_of_fieldOr scanTable scanned
  · exact CommitPolicy.decodes.fields_of_fieldOr commitTable committed
  · exact PhrasePolicy.decodes.fields_of_fieldOr rulesTable ruled

/--
A file with a document whose sections are tables is loaded exactly if the document fits what a
policy may say. The policy then has the fields that the document has, and the built-in ones in
place of all others; otherwise nothing of the document is used.
-/
theorem load_eq_ok_iff_fits {directory : Directory} {path : String} {content : List UInt8}
    {text : List Char} (found : directory.lookup? path = some (.file content))
    (decoded : Utf8.decode? content = some text) (parsed : Toml.parse? text = some table)
    (tables : ∀ name ∈ sectionNames, ∀ value, table.get? name = some value → value.IsTable) :
    ((∃ policy, load directory path = .ok policy) ↔ table.Fits schema) ∧
      (∀ policy, load directory path = .ok policy → ∀ name ∈ sectionNames,
        policy.fields name = Table.fillIn (table.sectionEntries name) (fields {} name)) ∧
      (¬table.Fits schema → load directory path = .error (.malformedPolicy path)) := by
  have accepts := exists_ofTable?_iff tables
  cases read : ofTable? table with
  | none =>
      have loaded : load directory path = .error (.malformedPolicy path) := by
        simp only [load, found, ofEntry, decoded, ofText?, parsed, Option.bind_some, read]
      have refused : ¬table.Fits schema := by
        intro fits
        rcases accepts.2 fits with ⟨policy, taken⟩
        cases read.symm.trans taken
      simp [loaded, refused]
  | some policy =>
      have loaded : load directory path = .ok policy := by
        simp only [load, found, ofEntry, decoded, ofText?, parsed, Option.bind_some, read]
      have fits : table.Fits schema := accepts.1 ⟨policy, read⟩
      refine ⟨⟨fun _ => fits, fun _ => ⟨policy, loaded⟩⟩, ?_, fun refused => absurd fits refused⟩
      intro other loaded'
      rcases Except.ok.inj (loaded.symm.trans loaded') with rfl
      exact fields_of_ofTable? tables read

/-- One key that is misspelt, and the whole document is refused. -/
theorem load_misspelt_key :
    load (.file "c.toml" (Utf8.encode "[commit]\nmax_subject_len = 50\nscope = 3\n".toList) .empty)
      "c.toml" = .error (.malformedPolicy "c.toml") := by
  have lineEnd : IsLineRest ['\n'] := .mk .nil .none .lineFeed
  have space : IsSpaces [' '] := by decide
  have lines : List.Forall₂ WritesLine
      [.header "commit", .entry "max_subject_len" (.integer 50), .entry "scope" (.integer 3)] _ :=
    .cons (.header .nil .nil (by decide) .nil lineEnd)
      (.cons (.entry .nil (by decide) space space (.natural 50) lineEnd)
        (.cons (.entry .nil (by decide) space space (.natural 3) lineEnd) .nil))
  have written : WritesSections
      [("commit", [("max_subject_len", .integer 50), ("scope", .integer 3)])] _ :=
    .mk lines .nil
  have parsed := written.parse? (by decide) (by decide)
  refine (load_eq_ok_iff_fits rfl (Utf8.decode?_encode _) parsed ?_).2.2 ?_
  · intro name _ value found
    have member := (lookup_eq_some_iff_mem (by decide)).1 found
    simp only [List.map_cons, List.map_nil, List.mem_singleton, Prod.mk.injEq] at member
    exact ⟨_, _, member.2⟩
  · intro fits
    rcases fits "commit" _ rfl with ⟨allowed, listed, isSection⟩
    cases listed
    rcases isSection with ⟨_, _, same, fits⟩
    cases same
    rcases fits "scope" _ rfl with ⟨allowed, listed, _⟩
    cases listed

/-- A number beyond those of 63 bits is loaded all the same. -/
theorem load_large_number :
    let text := "[scan]\nexcerpt_len = 9223372036854775808\n".toList
    Toml.parse? text =
        some [("scan", .table .header [("excerpt_len", .integer (2 ^ 63))])] ∧
      load (.file "c.toml" (Utf8.encode text) .empty) "c.toml" =
        .ok { scan := { excerptLength := 2 ^ 63 } } ∧
      ¬(2 : Int) ^ 63 ≤ 2 ^ 63 - 1 := by
  intro text
  have lineEnd : IsLineRest ['\n'] := .mk .nil .none .lineFeed
  have space : IsSpaces [' '] := by decide
  have lines : List.Forall₂ WritesLine
      [.header "scan", .entry "excerpt_len" (.integer (2 ^ 63))] _ :=
    .cons (.header .nil .nil (by decide) .nil lineEnd)
      (.cons (.entry .nil (by decide) space space (.natural (2 ^ 63)) lineEnd) .nil)
  have written : WritesSections [("scan", [("excerpt_len", .integer (2 ^ 63))])] _ :=
    .mk lines .nil
  have parsed : Toml.parse? text =
      some [("scan", .table .header [("excerpt_len", .integer (2 ^ 63))])] :=
    written.parse? (by decide) (by decide)
  refine ⟨parsed, ?_, by decide⟩
  have read : ofText? text = some { scan := { excerptLength := 2 ^ 63 } } := by
    rw [ofText?, parsed]
    rfl
  have found : Directory.lookup? (.file "c.toml" (Utf8.encode text) .empty) "c.toml" =
      some (.file (Utf8.encode text)) := rfl
  simp only [load, found, ofEntry, Utf8.decode?_encode, read]

end Policy

end Precommit
