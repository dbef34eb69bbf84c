import Precommit.Listing
import Precommit.Proofs.Audit.Assembly
import Precommit.Proofs.Audit.Independence
import Precommit.Proofs.Text.Boundaries
import Precommit.Proofs.Text.LineBreaks
import Precommit.Proofs.Text.Trim

/-!
# Paths that are printed and read back

The version control prints a path and a line feed for each file. The lines are trimmed when
they are read back, so a list of paths comes back as it was exactly if none of the paths
begins or ends with a blank (`paths_printed`). A path that does comes back as another one.
-/

namespace Precommit

namespace Path

/-- A path that is printed as it is: of visible characters and blanks, without quoting. -/
structure IsVerbatim (path : String) : Prop where
  ne_empty : path ≠ ""
  printable : ∀ character ∈ path.toList, ' ' ≤ character ∧ character ≤ '~'
  noQuote : '"' ∉ path.toList
  noBackslash : '\\' ∉ path.toList

instance : DecidablePred IsVerbatim := fun path =>
  have := List.decidableBAll (fun character => ' ' ≤ character ∧ character ≤ '~') path.toList
  decidable_of_iff
    (path ≠ "" ∧ (∀ character ∈ path.toList, ' ' ≤ character ∧ character ≤ '~') ∧
      '"' ∉ path.toList ∧ '\\' ∉ path.toList)
    ⟨fun ⟨ne_empty, printable, noQuote, noBackslash⟩ =>
        ⟨ne_empty, printable, noQuote, noBackslash⟩,
      fun verbatim =>
        ⟨verbatim.ne_empty, verbatim.printable, verbatim.noQuote, verbatim.noBackslash⟩⟩

/-- The path without the blanks at its ends. -/
def trimmed (path : String) : String :=
  String.ofList (Text.trim path.toList)

/-- The path begins or ends with a blank. -/
def IsPadded (path : String) : Prop :=
  path.toList.head? = some ' ' ∨ path.toList.getLast? = some ' '

instance : DecidablePred IsPadded := fun path =>
  inferInstanceAs
    (Decidable (path.toList.head? = some ' ' ∨ path.toList.getLast? = some ' '))

theorem isBlank_iff_of_printable {character : Char} (least : ' ' ≤ character)
    (most : character ≤ '~') : Unicode.isBlank character = true ↔ character = ' ' := by
  have least' : 32 ≤ character.toNat := least
  have most' : character.toNat ≤ 126 := most
  have blank : character = ' ' ↔ character.toNat = 32 :=
    ⟨fun same => same ▸ rfl, fun same => Char.toNat_inj.1 same⟩
  simp only [blank, Unicode.isBlank, Unicode.blankRanges, List.any_cons, List.any_nil,
    Bool.or_eq_true, Bool.and_eq_true, decide_eq_true_eq, Bool.or_false]
  omega

theorem IsVerbatim.noFeed {path : String} (verbatim : IsVerbatim path) : '\n' ∉ path.toList :=
  fun feed => absurd (verbatim.printable '\n' feed).1 (by decide)

theorem IsVerbatim.trimmed_eq_self_iff {path : String} (verbatim : IsVerbatim path) :
    trimmed path = path ↔ ¬IsPadded path := by
  have visible (character : Char) (member : character ∈ path.toList) :
      Unicode.isBlank character = false ↔ character ≠ ' ' := by
    rcases verbatim.printable character member with ⟨least, most⟩
    rw [← Bool.not_eq_true, isBlank_iff_of_printable least most]
  have same : trimmed path = path ↔ Text.trim path.toList = path.toList := by
    rw [trimmed, ← String.toList_inj, String.toList_ofList]
  rw [same, Text.trim_eq_self_iff, IsPadded, not_or]
  refine and_congr ⟨fun first head => ?_, fun first character head => ?_⟩
    ⟨fun last final => ?_, fun last character final => ?_⟩
  · exact absurd (first ' ' head) (by decide)
  · refine (visible character (List.mem_of_mem_head? head)).2 ?_
    rintro rfl
    exact first head
  · exact absurd (last ' ' final) (by decide)
  · refine (visible character (List.mem_of_getLast? final)).2 ?_
    rintro rfl
    exact last final

end Path

namespace CommandOutcome

/-- A command that succeeded and printed each of the paths with a line feed after it. -/
def printing (paths : List String) : CommandOutcome where
  status := 0
  output := Utf8.encode (paths.flatMap fun path => path.toList ++ ['\n'])

variable {paths : List String}

theorem lines_printed (noFeed : ∀ path ∈ paths, '\n' ∉ path.toList) :
    Text.lines (paths.flatMap fun path => path.toList ++ ['\n']) =
      paths.map String.toList ++ [[]] := by
  induction paths with
  | nil => rfl
  | cons path rest ih =>
      rw [List.forall_mem_cons] at noFeed
      rw [List.flatMap_cons, List.append_assoc, List.singleton_append,
        Text.lines_append_feed noFeed.1, ih noFeed.2, List.map_cons, List.cons_append]

/-- The paths come back without the blanks at their ends, as far as there is more to them. -/
theorem paths?_printing (noFeed : ∀ path ∈ paths, '\n' ∉ path.toList) :
    (printing paths).paths? = some ((paths.map Path.trimmed).filter (· != "")) := by
  have kept (texts : List (List Char)) :
      (texts.filter (!·.isEmpty)).map String.ofList =
        (texts.map String.ofList).filter (· != "") := by
    rw [List.filter_map]
    refine congrArg (List.map String.ofList) (List.filter_congr fun text _ => ?_)
    cases text <;> simp
  have last : ([[]].map Text.trim).filter (!·.isEmpty) = [] := rfl
  rw [paths?, printing, if_pos rfl, Utf8.decodeLossy_encode, lines_printed noFeed,
    List.map_append, List.filter_append, last, List.append_nil, kept, List.map_map, List.map_map]
  rfl

/-- Nothing is lost exactly if there are no blanks to trim. -/
theorem filter_trimmed_eq_self_iff (verbatim : ∀ path ∈ paths, Path.IsVerbatim path) :
    (paths.map Path.trimmed).filter (· != "") = paths ↔ ∀ path ∈ paths, ¬Path.IsPadded path := by
  have kept : (∀ path ∈ paths, ¬Path.IsPadded path) ↔ paths.map Path.trimmed = paths.map id := by
    rw [List.map_inj_left]
    exact forall₂_congr fun path member => (verbatim path member).trimmed_eq_self_iff.symm
  rw [kept, List.map_id]
  constructor
  · intro same
    have length : ((paths.map Path.trimmed).filter (· != "")).length =
        (paths.map Path.trimmed).length := by
      rw [same, List.length_map]
    rwa [List.filter_eq_self.2 (List.length_filter_eq_length_iff.1 length)] at same
  · intro same
    rw [same]
    exact List.filter_eq_self.2 fun path member => bne_iff_ne.2 (verbatim path member).ne_empty

end CommandOutcome

namespace FileSource

/--
The staged and the tracked files come back from the version control without the blanks at
the ends of their paths. They are listed as they are exactly if no path begins or ends with
a blank, and then all those that are scannable and can be read are scanned.
-/
theorem paths_printed {paths : List String} (verbatim : ∀ path ∈ paths, Path.IsVerbatim path)
    (versionControl : VersionControl) (classifier : Classifier) (directory : Directory) :
    let listed := (paths.map Path.trimmed).filter (· != "")
    FileSource.staged.paths classifier
        { versionControl with staged := some (.printing paths) } directory = listed ∧
      FileSource.all.paths classifier
        { versionControl with tracked := some (.printing paths) } directory = listed ∧
      (listed = paths ↔ ∀ path ∈ paths, ¬Path.IsPadded path) ∧
      ((∀ path ∈ paths, ¬Path.IsPadded path) →
        ∀ auditor : Auditor, ∀ message,
          (auditor.audit directory.content? listed message).filesScanned =
              paths.countP (fun path =>
                auditor.classifier.isScannable path && (directory.content? path).isSome) ∧
            ∀ path ∈ paths, auditor.classifier.isScannable path = true →
              ∀ content, directory.content? path = some content →
                auditor.fileFindings path content ⊆
                  (auditor.audit directory.content? listed message).findings) := by
  intro listed
  have read := CommandOutcome.paths?_printing fun path member => (verbatim path member).noFeed
  have unchanged := CommandOutcome.filter_trimmed_eq_self_iff verbatim
  refine ⟨?_, ?_, unchanged, ?_⟩
  · rw [FileSource.paths, Option.bind_some, read]
    rfl
  · rw [FileSource.paths, Option.bind_some, read]
    rfl
  · intro unpadded auditor message
    have whole : listed = paths := unchanged.2 unpadded
    rw [whole, Auditor.audit_eq]
    refine ⟨rfl, fun path member scannable content found finding inFile => ?_⟩
    refine List.mem_append_left _ (List.mem_flatMap.2 ⟨path, member, ?_⟩)
    rw [Auditor.contribution, if_pos scannable, found]
    exact inFile

/-- A path with a blank inside is listed as it is, and its file is scanned. -/
theorem paths_printed_inner_blank :
    ∃ auditor, Auditor.ofPolicy {} = .ok auditor ∧
      let directory := Directory.file "a b.md" [] .empty
      let listed := FileSource.staged.paths auditor.classifier
        { staged := some (.printing ["a b.md", "c.md"]) } directory
      listed = ["a b.md", "c.md"] ∧
        (auditor.audit directory.content? listed none).filesScanned = 1 := by
  rcases Auditor.exists_ofPolicy_builtin with ⟨auditor, read⟩
  obtain rfl := Auditor.eq_assembled read
  have verbatim : ∀ path ∈ ["a b.md", "c.md"], Path.IsVerbatim path := by decide
  have unpadded : ∀ path ∈ ["a b.md", "c.md"], ¬Path.IsPadded path := by decide
  rcases paths_printed verbatim {} (.assembled {}) (.file "a b.md" [] .empty) with
    ⟨staged, _, whole, _⟩
  refine ⟨.assembled {}, read, staged.trans (whole.2 unpadded), ?_⟩
  rw [Auditor.assembled, staged, whole.2 unpadded]
  decide +kernel

/-- A staged file whose name begins with a blank is listed under another name, and not scanned. -/
theorem paths_printed_padded :
    ∃ auditor, Auditor.ofPolicy {} = .ok auditor ∧
      let directory := Directory.file " a.md" [] .empty
      let listed := FileSource.staged.paths auditor.classifier
        { staged := some (.printing [" a.md"]) } directory
      Path.IsVerbatim " a.md" ∧ listed = ["a.md"] ∧
        (auditor.audit directory.content? listed none).filesScanned = 0 ∧
        (auditor.audit directory.content? [" a.md"] none).filesScanned = 1 := by
  rcases Auditor.exists_ofPolicy_builtin with ⟨auditor, read⟩
  obtain rfl := Auditor.eq_assembled read
  have verbatim : Path.IsVerbatim " a.md" := by decide
  have printed := @CommandOutcome.paths?_printing [" a.md"] (by decide)
  have listed : FileSource.staged.paths (Classifier.assembled {})
      { staged := some (.printing [" a.md"]) } (.file " a.md" [] .empty) = ["a.md"] := by
    rw [FileSource.paths, Option.bind_some, printed]
    decide +kernel
  refine ⟨.assembled {}, read, verbatim, listed, ?_, ?_⟩
  · rw [Auditor.assembled, listed]
    decide +kernel
  · decide +kernel

end FileSource

end Precommit
