import Mathlib.Data.List.Nodup
import Precommit.Proofs.Outcome
import Precommit.Proofs.Toml.Written

/-!
# Documents as they may be written

A document is cut into lines, each of which is a header or sets a key; the blank lines and
comments before it count as part of it. One step of the reader takes one line, whatever comes
after it, and so the reader does to the table what the lines say, one after the other
(`readLines?_pieces`). A document of sections with different names and keys is read as these
sections, in the order in which they were written (`WritesSections.parse?`).
-/

namespace Precommit

namespace Toml

/-- Whether the text is a key that needs no quotes. -/
def IsBareKey (key : List Char) : Prop :=
  key ≠ [] ∧ key.all isBareKeyCharacter = true

instance (key : List Char) : Decidable (IsBareKey key) :=
  inferInstanceAs (Decidable (_ ∧ _))

/-- A line that is not blank. -/
inductive Line
  | header (name : String)
  | entry (key : String) (value : Value)

namespace Line

/-- The last header and the table after a line. -/
def step? (line : Line) (header : List String) (table : Table) :
    Option (List String × Table) :=
  match line with
  | .header name => (table.define? [name]).map fun table => ([name], table)
  | .entry key value => (table.assignUnder? header [key] value).map fun table => (header, table)

/-- The table after some lines. -/
def run? (lines : List Line) (header : List String) (table : Table) : Option Table :=
  match lines with
  | [] => some table
  | line :: lines =>
      (line.step? header table).bind fun (header, table) => run? lines header table

end Line

/-- The ways to write a line, with spaces around its parts and blank lines before it. -/
inductive WritesLine : Line → List Char → Prop
  | header {name : String} {before inner outer line : List Char} (blank : IsFiller before)
      (left : IsSpaces inner) (bare : IsBareKey name.toList) (right : IsSpaces outer)
      (ended : IsLineRest line) :
      WritesLine (.header name)
        (before ++ '[' :: (inner ++ (name.toList ++ (outer ++ ']' :: line))))
  | entry {key : String} {value : Value} {before left right text line : List Char}
      (blank : IsFiller before) (bare : IsBareKey key.toList) (left_spaced : IsSpaces left)
      (right_spaced : IsSpaces right) (written : WritesValue value text)
      (ended : IsLineRest line) :
      WritesLine (.entry key value)
        (before ++ (key.toList ++ (left ++ '=' :: (right ++ (text ++ line)))))

section Keys

theorem ne_of_isBareKeyCharacter {character other : Char}
    (bare : isBareKeyCharacter character = true) (special : isBareKeyCharacter other = false) :
    character ≠ other := by
  rintro rfl
  rw [bare] at special
  cases special

variable {key : List Char}

theorem IsBareKey.exists_eq_cons (bare : IsBareKey key) :
    ∃ character others, key = character :: others ∧ isBareKeyCharacter character = true := by
  rcases bare with ⟨nonempty, each⟩
  cases key with
  | nil => exact absurd rfl nonempty
  | cons character others =>
      rw [List.all_cons, Bool.and_eq_true] at each
      exact ⟨character, others, rfl, each.1⟩

theorem not_mem_of_isBareKeyCharacter {character : Char}
    (bare : isBareKeyCharacter character = true) :
    character ∉ [' ', '\t', '\n', '\r', '#'] := by
  have special : ([' ', '\t', '\n', '\r', '#'].all (!isBareKeyCharacter ·)) = true := by decide
  intro member
  have notBare := List.all_eq_true.1 special character member
  rw [bare] at notBare
  cases notBare

theorem IsBareKey.readSimpleKey? (bare : IsBareKey key) {next : Char}
    (stop : isBareKeyCharacter next = false) (rest : List Char) :
    readSimpleKey? (key ++ next :: rest) = some (String.ofList key, next :: rest) := by
  have stops : ¬isBareKeyCharacter next = true := by
    rw [stop]
    decide
  have taken : (key ++ next :: rest).takeWhile isBareKeyCharacter = key := by
    rw [List.takeWhile_append_of_pos (List.all_eq_true.1 bare.2), List.takeWhile_cons_of_neg stops,
      List.append_nil]
  have dropped : (key ++ next :: rest).dropWhile isBareKeyCharacter = next :: rest := by
    rw [List.dropWhile_append_of_pos (List.all_eq_true.1 bare.2), List.dropWhile_cons_of_neg stops]
  rcases bare.exists_eq_cons with ⟨character, others, rfl, first⟩
  unfold Toml.readSimpleKey?
  split
  · rename_i opened
    exact absurd (List.cons.inj opened).1 (ne_of_isBareKeyCharacter first (by decide))
  · rename_i opened
    exact absurd (List.cons.inj opened).1 (ne_of_isBareKeyCharacter first (by decide))
  · simp only [taken, dropped]

/-- A key of one component ends at a character that is neither part of a key nor a dot. -/
theorem IsBareKey.readKey? (bare : IsBareKey key) {spaces : List Char} (spaced : IsSpaces spaces)
    {next : Char} (special : isBareKeyCharacter next = false) (visible : isSpace next = false)
    (single : next ≠ '.') (rest : List Char) :
    readKey? keyLimit (key ++ (spaces ++ next :: rest)) =
      some ([String.ofList key], next :: rest) := by
  have skipped : skipSpaces (spaces ++ next :: rest) = next :: rest := by
    rw [spaced.skipSpaces_append, skipSpaces_cons visible]
  have component : Toml.readSimpleKey? (key ++ (spaces ++ next :: rest)) =
      some (String.ofList key, spaces ++ next :: rest) := by
    cases spaces with
    | nil => exact bare.readSimpleKey? special rest
    | cons space spaces =>
        have stop : isBareKeyCharacter space = false := by
          have isSpace := List.all_eq_true.1 spaced space List.mem_cons_self
          rw [Toml.isSpace, Bool.or_eq_true, beq_iff_eq, beq_iff_eq] at isSpace
          rcases isSpace with rfl | rfl <;> decide
        exact bare.readSimpleKey? stop _
  have limit : keyLimit = 79 + 1 := rfl
  rw [limit, Toml.readKey?, component]
  simp only [skipped]
  split
  · rename_i dotted
    exact absurd (List.cons.inj dotted).1 single
  · rfl

theorem IsBareKey.skipSpaces_append (bare : IsBareKey key) (rest : List Char) :
    skipSpaces (key ++ rest) = key ++ rest := by
  rcases bare.exists_eq_cons with ⟨character, others, rfl, first⟩
  exact skipSpaces_cons (isSpace_eq_false (not_mem_of_isBareKeyCharacter first)) _

theorem IsBareKey.spaced_ne_bracket (bare : IsBareKey key) {spaces : List Char}
    (spaced : IsSpaces spaces) (rest others : List Char) :
    spaces ++ (key ++ rest) ≠ '[' :: others := by
  intro same
  have skipped : skipSpaces (spaces ++ (key ++ rest)) = key ++ rest := by
    rw [spaced.skipSpaces_append, bare.skipSpaces_append]
  rcases bare.exists_eq_cons with ⟨character, _, rfl, first⟩
  rw [same, skipSpaces_cons (by decide)] at skipped
  exact ne_of_isBareKeyCharacter first (by decide) (List.cons.inj skipped).1.symm

end Keys

section Lines

variable {text rest : List Char}

theorem readHeader?_bare {name : String} (bare : IsBareKey name.toList) {inner outer line : List Char}
    (left : IsSpaces inner) (right : IsSpaces outer) (ended : IsLineRest line)
    (rest : List Char) :
    readHeader? [']'] (inner ++ (name.toList ++ (outer ++ ']' :: (line ++ rest)))) =
      some ([name], rest) := by
  rw [readHeader?, left.skipSpaces_append, bare.skipSpaces_append,
    bare.readKey? right (by decide) (by decide) (by decide), String.ofList_toList]
  simp [ended.endLine?_append]

theorem readLines?_filler {before : List Char} (blank : IsFiller before) (fuel : Nat)
    (header : List String) (table : Table) (rest : List Char) :
    readLines? (fuel + 1) header table (before ++ rest) =
      readLines? (fuel + 1) header table rest := by
  simp only [readLines?, blank.skipBlankLines_append]

theorem readLines?_header {name : String} (bare : IsBareKey name.toList)
    {inner outer line : List Char} (left : IsSpaces inner) (right : IsSpaces outer)
    (ended : IsLineRest line) (fuel : Nat) (header : List String) (table : Table)
    (rest : List Char) :
    readLines? (fuel + 1) header table
        ('[' :: (inner ++ (name.toList ++ (outer ++ ']' :: (line ++ rest))))) =
      (table.define? [name]).bind fun table => readLines? fuel [name] table rest := by
  have read := readHeader?_bare bare left right ended rest
  rw [readLines?, skipBlankLines_cons (by decide)]
  split
  · rename_i nothing
    cases nothing
  · -- A second bracket would have to be the first character of the name.
    rename_i double
    exact absurd (List.cons.inj double).2 (bare.spaced_ne_bracket left _ _)
  · rename_i single
    rw [← (List.cons.inj single).2, read]
  · rename_i other
    exact (other _ rfl).elim

theorem readLines?_entry {key : String} (bare : IsBareKey key.toList)
    {left right text line : List Char} (left_spaced : IsSpaces left)
    (right_spaced : IsSpaces right) {value : Value} (written : WritesValue value text)
    (ended : IsLineRest line) (fuel : Nat) (header : List String) (table : Table)
    (rest : List Char) :
    readLines? (fuel + 1) header table
        (key.toList ++ (left ++ '=' :: (right ++ (text ++ (line ++ rest))))) =
      (table.assignUnder? header [key] value).bind fun table =>
        readLines? fuel header table rest := by
  have path := bare.readKey? left_spaced (show isBareKeyCharacter '=' = false by decide)
    (by decide) (by decide) (right ++ (text ++ (line ++ rest)))
  have spaced : skipSpaces (right ++ (text ++ (line ++ rest))) = text ++ (line ++ rest) := by
    rw [right_spaced.skipSpaces_append, written.skipSpaces_append]
  have enough : text.length < (right ++ (text ++ (line ++ rest))).length + 1 := by
    rw [List.length_append, List.length_append]
    omega
  rw [String.ofList_toList] at path
  rcases bare.exists_eq_cons with ⟨character, others, key_eq, first⟩
  rw [key_eq, List.cons_append] at path ⊢
  have bracket := ne_of_isBareKeyCharacter first (show isBareKeyCharacter '[' = false by decide)
  rw [readLines?, skipBlankLines_cons (not_mem_of_isBareKeyCharacter first)]
  split
  · rename_i nothing
    cases nothing
  · rename_i double
    exact absurd (List.cons.inj double).1 bracket
  · rename_i single
    exact absurd (List.cons.inj single).1 bracket
  · simp only [path, spaced, written.readValue? ended enough rest]
    simp [ended.endLine?_append]

/-- One step of the reader takes one line. -/
theorem WritesLine.readLines? {line : Line} (written : WritesLine line text) (fuel : Nat)
    (header : List String) (table : Table) (rest : List Char) :
    readLines? (fuel + 1) header table (text ++ rest) =
      (line.step? header table).bind fun (header, table) =>
        readLines? fuel header table rest := by
  cases written with
  | header blank left bare right ended =>
      simp only [List.append_assoc, List.cons_append]
      rw [readLines?_filler blank, readLines?_header bare left right ended, Line.step?,
        Option.bind_map]
      rfl
  | entry blank bare left_spaced right_spaced written ended =>
      simp only [List.append_assoc, List.cons_append]
      rw [readLines?_filler blank, readLines?_entry bare left_spaced right_spaced written ended,
        Line.step?, Option.bind_map]
      rfl

/-- No line begins with a byte order mark, which would be dropped. -/
theorem WritesLine.head?_append_ne {line : Line} (written : WritesLine line text)
    (rest : List Char) : (text ++ rest).head? ≠ some '\ufeff' := by
  cases written with
  | header blank =>
      rw [List.append_assoc]
      exact blank.head?_append_cons_ne (by decide) (by decide) (by decide) _
  | entry blank bare =>
      rcases bare.exists_eq_cons with ⟨character, others, key_eq, first⟩
      rw [List.append_assoc, key_eq]
      exact blank.head?_append_cons_ne (not_mem_of_isBareKeyCharacter first) (by decide)
        (ne_of_isBareKeyCharacter first (by decide)) _

variable {lines : List Line} {pieces : List (List Char)} {filler : List Char}

/-- The reader does what the lines say, one after the other. -/
theorem readLines?_pieces (written : List.Forall₂ WritesLine lines pieces)
    (blank : IsFiller filler) {fuel : Nat} (enough : lines.length < fuel)
    (header : List String) (table : Table) :
    readLines? fuel header table (pieces.flatten ++ filler) =
      Line.run? lines header table := by
  induction written generalizing fuel header table with
  | nil =>
      rcases Nat.exists_eq_add_of_le' (Nat.one_le_of_lt enough) with ⟨fuel, rfl⟩
      rw [List.flatten_nil, List.nil_append, readLines?, blank.skipBlankLines]
      rfl
  | cons first _ ih =>
      rcases Nat.exists_eq_add_of_le' (Nat.one_le_of_lt enough) with ⟨fuel, rfl⟩
      rw [List.length_cons, Nat.add_lt_add_iff_right] at enough
      rw [List.flatten_cons, List.append_assoc, first.readLines?, Line.run?]
      congr 1
      funext (header, table)
      exact ih enough header table

theorem WritesLine.length_pos {line : Line} (written : WritesLine line text) :
    0 < text.length := by
  cases written with
  | header => exact List.length_pos_iff.2 (by simp)
  | entry => exact List.length_pos_iff.2 (by simp)

theorem length_le_length_flatten (written : List.Forall₂ WritesLine lines pieces) :
    lines.length ≤ pieces.flatten.length := by
  induction written with
  | nil => exact Nat.zero_le _
  | cons first _ ih =>
      have positive := first.length_pos
      rw [List.length_cons, List.flatten_cons, List.length_append]
      omega

theorem parse?_pieces (written : List.Forall₂ WritesLine lines pieces) (blank : IsFiller filler) :
    parse? (pieces.flatten ++ filler) = Line.run? lines [] [] := by
  have unmarked : (pieces.flatten ++ filler).head? ≠ some '\ufeff' := by
    cases written with
    | nil => exact blank.head?_ne (by decide)
    | cons first _ =>
        rw [List.flatten_cons, List.append_assoc]
        exact first.head?_append_ne _
  have enough : lines.length < (pieces.flatten ++ filler).length + 1 := by
    have short := length_le_length_flatten written
    rw [List.length_append]
    omega
  unfold parse?
  split
  · rename_i marked
    rw [marked] at unmarked
    exact absurd rfl unmarked
  · exact readLines?_pieces written blank enough [] []

end Lines

/-- The lines of sections, each with its entries. -/
def sectionLines (sections : List (String × Table)) : List Line :=
  sections.flatMap fun (name, entries) =>
    .header name :: entries.map fun (key, value) => .entry key value

/-- The ways to write sections with their entries as a document. -/
inductive WritesSections : List (String × Table) → List Char → Prop
  | mk {sections : List (String × Table)} {pieces : List (List Char)} {filler : List Char}
      (written : List.Forall₂ WritesLine (sectionLines sections) pieces)
      (blank : IsFiller filler) : WritesSections sections (pieces.flatten ++ filler)

/-- Sections can be written if their names and keys need no quotes and their values can. -/
theorem exists_writesSections {sections : List (String × Table)}
    (named : ∀ part ∈ sections, IsBareKey part.1.toList)
    (keyed : ∀ part ∈ sections, ∀ entry ∈ part.2,
      IsBareKey entry.1.toList ∧ ∃ text, WritesValue entry.2 text) :
    ∃ text, WritesSections sections text := by
  have lineEnd : IsLineRest ['\n'] := .mk .nil .none .lineFeed
  have each : ∀ line ∈ sectionLines sections, ∃ piece, WritesLine line piece := by
    intro line member
    rcases List.mem_flatMap.1 member with ⟨part, listed, member⟩
    rcases List.mem_cons.1 member with rfl | member
    · exact ⟨_, .header .nil .nil (named part listed) .nil lineEnd⟩
    · rcases List.mem_map.1 member with ⟨entry, listed', rfl⟩
      rcases keyed part listed entry listed' with ⟨bare, text, written⟩
      exact ⟨_, .entry .nil bare .nil .nil written lineEnd⟩
  rcases exists_forall₂ each with ⟨pieces, written⟩
  exact ⟨_, .mk written .nil⟩

section Sections

variable {table : Table} {name : String}

theorem update?_append {key : String} (absent : key ∉ table.map Prod.fst) (rest : Table)
    (change : Option Value → Option Value) :
    Table.update? (table ++ rest) key change = (rest.update? key change).map (table ++ ·) := by
  induction table with
  | nil => simp
  | cons entry table ih =>
      rcases entry with ⟨name, value⟩
      rw [List.map_cons, List.mem_cons, not_or] at absent
      have other : ¬(name == key) = true := fun same => absent.1 (beq_iff_eq.1 same).symm
      rw [List.cons_append, Table.update?, if_neg other, ih absent.2, Option.map_map]
      rfl

theorem run?_header (fresh : name ∉ table.map Prod.fst) (lines : List Line)
    (header : List String) :
    Line.run? (.header name :: lines) header table =
      Line.run? lines [name] (table ++ [(name, .table .header [])]) := by
  have appended := update?_append fresh []
  rw [List.append_nil] at appended
  rw [Line.run?, Line.step?, Table.define?, Table.reach?, appended]
  rfl

/-- A new key goes to the end of the last section. -/
theorem assignUnder?_last (fresh : name ∉ table.map Prod.fst) {entries : Table} {key : String}
    (new : key ∉ entries.map Prod.fst) (value : Value) :
    Table.assignUnder? (table ++ [(name, .table .header entries)]) [name] [key] value =
      some (table ++ [(name, .table .header (entries ++ [(key, value)]))]) := by
  have appended := update?_append new []
  rw [List.append_nil] at appended
  rw [Table.assignUnder?, update?_append fresh, Table.update?, if_pos (beq_self_eq_true name)]
  simp only [Value.enter?, Table.assignUnder?, Table.assign?, appended]
  rfl

theorem run?_entries (fresh : name ∉ table.map Prod.fst) (before entries : Table)
    (distinct : ((before ++ entries).map Prod.fst).Nodup) (lines : List Line) :
    Line.run? ((entries.map fun (key, value) => Line.entry key value) ++ lines) [name]
        (table ++ [(name, .table .header before)]) =
      Line.run? lines [name] (table ++ [(name, .table .header (before ++ entries))]) := by
  induction entries generalizing before with
  | nil => rw [List.map_nil, List.nil_append, List.append_nil]
  | cons entry entries ih =>
      rcases entry with ⟨key, value⟩
      have new : key ∉ before.map Prod.fst := by
        intro member
        rw [List.map_append, List.map_cons, List.nodup_append] at distinct
        exact distinct.2.2 key member key List.mem_cons_self rfl
      rw [List.append_cons before (key, value) entries] at distinct ⊢
      rw [List.map_cons, List.cons_append, Line.run?, Line.step?, assignUnder?_last fresh new]
      exact ih _ distinct

theorem run?_sections (sections : List (String × Table))
    (distinct : ((table.map Prod.fst) ++ sections.map Prod.fst).Nodup)
    (each : ∀ entries ∈ sections, (entries.2.map Prod.fst).Nodup) (header : List String) :
    Line.run? (sectionLines sections) header table =
      some (table ++ sections.map fun (name, entries) => (name, .table .header entries)) := by
  induction sections generalizing table header with
  | nil => simp [sectionLines, Line.run?]
  | cons first sections ih =>
      rcases first with ⟨name, entries⟩
      rw [List.forall_mem_cons] at each
      have fresh : name ∉ table.map Prod.fst := by
        intro member
        rw [List.map_cons, List.nodup_append] at distinct
        exact distinct.2.2 name member name List.mem_cons_self rfl
      have header_lines : sectionLines ((name, entries) :: sections) =
          .header name ::
            ((entries.map fun (key, value) => Line.entry key value) ++ sectionLines sections) :=
        rfl
      have fresh' : (((table ++ [(name, Value.table .header entries)]).map Prod.fst) ++
          sections.map Prod.fst).Nodup := by
        rwa [List.map_append, List.append_assoc]
      rw [header_lines, run?_header fresh, run?_entries fresh [] entries each.1,
        List.nil_append, ih fresh' each.2, List.map_cons, List.append_assoc]
      rfl

theorem WritesSections.parse? {sections : List (String × Table)} {text : List Char}
    (written : WritesSections sections text) (distinct : (sections.map Prod.fst).Nodup)
    (each : ∀ entries ∈ sections, (entries.2.map Prod.fst).Nodup) :
    parse? text = some (sections.map fun (name, entries) => (name, .table .header entries)) := by
  rcases written with ⟨written, blank⟩
  rw [parse?_pieces written blank, run?_sections sections (by rwa [List.map_nil, List.nil_append]) each, List.nil_append]

end Sections

section Singletons

/-- The document of a table with one key, which is set to an array of one string. -/
def singletonDocument (name key text : List Char) : List Char :=
  '[' :: (name ++ ']' :: '\n' :: (key ++ ' ' :: '=' :: ' ' :: '[' :: '"' ::
    (text ++ ['"', ']', '\n'])))

variable {name key text : List Char}

theorem writesString_plain (plain : text.all isPlainCharacter = true) :
    WritesString (String.ofList text) ('"' :: (text ++ ['"'])) := by
  have pieces : List.Forall₂ WritesCharacter (String.ofList text).toList
      (text.map fun character => [character]) := by
    rw [String.toList_ofList, List.forall₂_map_right_iff, List.forall₂_same]
    exact fun character member => .plain (List.all_eq_true.1 plain character member)
  have written := WritesString.mk pieces
  rwa [← List.flatMap_def, List.flatMap_singleton'] at written

theorem writesSections_singleton (named : IsBareKey name) (keyed : IsBareKey key)
    (plain : text.all isPlainCharacter = true) :
    WritesSections
      [(String.ofList name, [(String.ofList key, .array [.string (String.ofList text)])])]
      (singletonDocument name key text) := by
  have lineEnd : IsLineRest ['\n'] := .mk .nil .none .lineFeed
  have space : IsSpaces [' '] := by decide
  have named' : IsBareKey (String.ofList name).toList := by rwa [String.toList_ofList]
  have keyed' : IsBareKey (String.ofList key).toList := by rwa [String.toList_ofList]
  have items := WritesItems.last .nil (writesString_plain plain) .nil
  have header := WritesLine.header .nil .nil named' .nil lineEnd
  have entry := WritesLine.entry .nil keyed' space space (.strings items) lineEnd
  have lines : List.Forall₂ WritesLine
      (sectionLines
        [(String.ofList name, [(String.ofList key, .array [.string (String.ofList text)])])]) _ :=
    .cons header (.cons entry .nil)
  have written := WritesSections.mk lines .nil
  simpa [singletonDocument] using written

theorem parse?_singletonDocument (named : IsBareKey name) (keyed : IsBareKey key)
    (plain : text.all isPlainCharacter = true) :
    parse? (singletonDocument name key text) =
      some [(String.ofList name,
        .table .header [(String.ofList key, .array [.string (String.ofList text)])])] :=
  (writesSections_singleton named keyed plain).parse? (List.nodup_singleton _)
    (by simp)

end Singletons

end Toml

end Precommit
