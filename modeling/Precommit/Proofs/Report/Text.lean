import Precommit.Proofs.Report.Groups
import Precommit.Proofs.Text.Decimal
import Precommit.Proofs.Text.LineBreaks
import Precommit.Report.Text

/-!
# The text report can be read back

The lines of the text report tell by their beginnings what they are: those of findings are
indented by four blanks, and those of headings by two with a bracket after them. So the
headings and the entries under them can be read off the lines, whatever the findings say, as
long as they say it on one line. Two results with the same report show the same headings and
entries, and the report of a result depends on nothing else (`text_eq_text_iff`).
-/

namespace Precommit

/-- Nothing that is said of the finding has a line feed. -/
structure Finding.IsOneLine (finding : Finding) : Prop where
  id : '\n' ∉ finding.label.id.toList
  name : '\n' ∉ finding.label.name.toList
  file : '\n' ∉ finding.file.toList
  detail : '\n' ∉ finding.detail.toList

/-- No finding of the result has a line feed. -/
def AuditResult.IsOneLine (result : AuditResult) : Prop :=
  ∀ finding ∈ result.findings, finding.IsOneLine

theorem Finding.IsOneLine.heading {finding : Finding} (oneLine : finding.IsOneLine) :
    '\n' ∉ finding.heading.toList := by
  simp [Finding.heading, oneLine.id, oneLine.name]

namespace Report

/-- What the text report says about a finding under the heading of its group. -/
def entry (finding : Finding) : String :=
  finding.file ++ ":" ++ toString finding.line ++ " — " ++ finding.detail

/-- The headings of the text report, each with the entries under it. -/
def sections (result : AuditResult) : List (String × List String) :=
  (groups result.findings).map fun (heading, members) => (heading, members.map entry)

/-- The number of entries, under whatever heading. -/
def entryCount (sections : List (String × List String)) : Nat :=
  (sections.flatMap Prod.snd).length

/-- The lines of a heading and the entries under it, with the blank line after them. -/
def sectionLines : String × List String → List Line
  | (heading, entries) =>
      (' ' :: ' ' :: heading.toList) ::
        (entries.map fun entry => ' ' :: ' ' :: ' ' :: ' ' :: entry.toList) ++ [[]]

/-- Whether the line is that of an entry. -/
def isEntryLine (line : Line) : Bool :=
  [' ', ' ', ' ', ' '].isPrefixOf line

/-- Whether the line is that of a heading. -/
def isHeadingLine (line : Line) : Bool :=
  [' ', ' ', '['].isPrefixOf line

/-- Every heading among the lines, with the entries that follow directly. -/
def readSections : List Line → List (String × List String)
  | [] => []
  | line :: rest =>
      if isHeadingLine line then
        (String.ofList (line.drop 2),
          (rest.takeWhile isEntryLine).map fun line => String.ofList (line.drop 4)) ::
            readSections rest
      else readSections rest

theorem not_mem_toDigits (number : Nat) : '\n' ∉ Nat.toDigits 10 number := by
  intro feed
  exact absurd (Text.isDigit_of_mem_toDigits '\n' feed) (by decide)

theorem not_mem_entry {finding : Finding} (oneLine : finding.IsOneLine) :
    '\n' ∉ (entry finding).toList := by
  simp [entry, oneLine.file, oneLine.detail, not_mem_toDigits]

section Sections

variable {result : AuditResult}

theorem exists_heading_of_mem_sections {shown : String × List String}
    (member : shown ∈ sections result) :
    ∃ finding ∈ result.findings, finding.heading = shown.1 := by
  rcases List.mem_map.1 member with ⟨group, grouped, rfl⟩
  exact (exists_heading_of_mem_groups grouped).1

theorem exists_entry_of_mem_sections {shown : String × List String}
    (member : shown ∈ sections result) :
    ∀ text ∈ shown.2, ∃ finding ∈ result.findings, entry finding = text := by
  rcases List.mem_map.1 member with ⟨group, grouped, rfl⟩
  intro text listed
  rcases List.mem_map.1 listed with ⟨finding, inGroup, rfl⟩
  exact ⟨finding, (exists_heading_of_mem_groups grouped).2 finding inGroup, rfl⟩

/-- Every finding has an entry. -/
theorem entryCount_sections (result : AuditResult) :
    entryCount (sections result) = result.findings.length := by
  have entries : (sections result).flatMap Prod.snd =
      ((groups result.findings).flatMap Prod.snd).map entry := by
    rw [sections, List.flatMap_map, List.map_flatMap]
  rw [entryCount, entries, List.length_map, (perm_groups result.findings).length_eq]

end Sections

/-- The first lines of a report. -/
def headerLines (filesScanned count : Nat) : List Line :=
  ["PRE-COMMIT AUDIT: ".toList ++ (if count = 0 then "PASS" else "FAIL").toList,
    "  Scanned: ".toList ++ (toString filesScanned).toList ++ " files".toList,
    "  Violations: ".toList ++ (toString count).toList]

/-- The last line of a report. -/
def statusLine (count : Nat) : Line :=
  "  Status: ".toList ++ (if count = 0 then "COMMIT ALLOWED" else "COMMIT BLOCKED").toList

/-- The lines of a report, which depend on the number of files and on what is shown. -/
def reportLines (filesScanned : Nat) (sections : List (String × List String)) : List Line :=
  headerLines filesScanned (entryCount sections) ++
    ((if entryCount sections = 0 then [] else [] :: sections.flatMap sectionLines) ++
      [statusLine (entryCount sections)])

theorem map_toList_textGroup (group : Group) :
    (textGroup group).map String.toList = sectionLines (group.1, group.2.map entry) := by
  rcases group with ⟨heading, members⟩
  simp [textGroup, sectionLines, textEntry, entry, Function.comp_def]

theorem passed_eq (result : AuditResult) :
    result.passed = decide (result.findings.length = 0) := by
  rw [AuditResult.passed, Bool.eq_iff_iff, List.isEmpty_iff, decide_eq_true_iff,
    List.length_eq_zero_iff]

theorem verdict_eq (result : AuditResult) :
    verdict result = if result.findings.length = 0 then "PASS" else "FAIL" := by
  simp only [verdict, passed_eq, decide_eq_true_eq]

theorem commitStatus_eq (result : AuditResult) :
    commitStatus result =
      if result.findings.length = 0 then "COMMIT ALLOWED" else "COMMIT BLOCKED" := by
  simp only [commitStatus, passed_eq, decide_eq_true_eq]

theorem map_toList_textLines (result : AuditResult) :
    (textLines result).map String.toList = reportLines result.filesScanned (sections result) := by
  have shown : ((groups result.findings).flatMap textGroup).map String.toList =
      (sections result).flatMap sectionLines := by
    rw [List.map_flatMap, sections, List.flatMap_map]
    exact List.flatMap_congr fun group _ => map_toList_textGroup group
  have body : (if result.passed then [] else "" :: (groups result.findings).flatMap textGroup).map
      String.toList = if result.findings.length = 0 then [] else
        [] :: (sections result).flatMap sectionLines := by
    simp only [passed_eq, decide_eq_true_eq]
    split
    · rfl
    · rw [List.map_cons, shown]
      rfl
  rw [reportLines, entryCount_sections, textLines, List.map_append, List.map_append,
    List.append_assoc, body]
  simp only [List.map_cons, List.map_nil, String.toList_append, verdict_eq, commitStatus_eq]
  rfl

section Reader

variable {heading : String} {entries : List String}

theorem isHeadingLine_heading (headed : heading.toList.head? = some '[') :
    isHeadingLine (' ' :: ' ' :: heading.toList) = true := by
  rcases List.head?_eq_some_iff.1 headed with ⟨rest, same⟩
  rw [same]
  rfl

theorem isEntryLine_heading (headed : heading.toList.head? = some '[') :
    isEntryLine (' ' :: ' ' :: heading.toList) = false := by
  rcases List.head?_eq_some_iff.1 headed with ⟨rest, same⟩
  rw [same]
  rfl

theorem readSections_append {before : List Line}
    (plain : ∀ line ∈ before, isHeadingLine line = false) (rest : List Line) :
    readSections (before ++ rest) = readSections rest := by
  induction before with
  | nil => rfl
  | cons line before ih =>
      rw [List.forall_mem_cons] at plain
      rw [List.cons_append, readSections, plain.1]
      exact ih plain.2

/-- The entries of a heading end at the blank line. -/
theorem takeWhile_isEntryLine (entries : List String) (rest : List Line) :
    ((entries.map fun entry => ' ' :: ' ' :: ' ' :: ' ' :: entry.toList) ++ [] :: rest).takeWhile
        isEntryLine =
      entries.map fun entry => ' ' :: ' ' :: ' ' :: ' ' :: entry.toList := by
  rw [List.takeWhile_append_of_pos]
  · rw [List.takeWhile_cons_of_neg (by decide), List.append_nil]
  · intro line member
    rcases List.mem_map.1 member with ⟨entry, _, rfl⟩
    rfl

theorem readSections_sectionLines (headed : heading.toList.head? = some '[')
    (rest : List Line) :
    readSections (sectionLines (heading, entries) ++ rest) =
      (heading, entries) :: readSections rest := by
  have plain : ∀ line ∈ (entries.map fun entry => ' ' :: ' ' :: ' ' :: ' ' :: entry.toList) ++ [[]],
      isHeadingLine line = false := by
    intro line member
    rcases List.mem_append.1 member with member | member
    · rcases List.mem_map.1 member with ⟨entry, _, rfl⟩
      rfl
    · rcases List.mem_singleton.1 member with rfl
      rfl
  have skipped := readSections_append plain rest
  rw [List.append_assoc, List.singleton_append] at skipped
  simp only [sectionLines, List.cons_append, List.append_assoc, List.nil_append, readSections,
    isHeadingLine_heading headed, if_true, takeWhile_isEntryLine, skipped]
  simp [Function.comp_def]

theorem readSections_flatMap {sections : List (String × List String)}
    (headed : ∀ shown ∈ sections, shown.1.toList.head? = some '[') (rest : List Line) :
    readSections (sections.flatMap sectionLines ++ rest) = sections ++ readSections rest := by
  induction sections with
  | nil => rfl
  | cons shown sections ih =>
      rw [List.forall_mem_cons] at headed
      rw [List.flatMap_cons, List.append_assoc, readSections_sectionLines headed.1, ih headed.2]
      rfl

theorem countP_sectionLines (headed : heading.toList.head? = some '[') :
    (sectionLines (heading, entries)).countP isEntryLine = entries.length := by
  have each : ∀ line ∈ entries.map fun entry => ' ' :: ' ' :: ' ' :: ' ' :: entry.toList,
      isEntryLine line = true := by
    intro line member
    rcases List.mem_map.1 member with ⟨entry, _, rfl⟩
    rfl
  have last : isEntryLine [] = false := rfl
  simp [sectionLines, isEntryLine_heading headed, last, List.countP_eq_length.2 each]

end Reader

section Lines

variable {filesScanned count : Nat} {sections : List (String × List String)}

/-- The first lines are neither headings nor entries. -/
theorem headerLines_plain :
    ∀ line ∈ headerLines filesScanned count,
      isHeadingLine line = false ∧ isEntryLine line = false := by
  simp only [headerLines, List.forall_mem_cons]
  refine ⟨⟨rfl, rfl⟩, ⟨rfl, rfl⟩, ⟨rfl, rfl⟩, ?_⟩
  intro line member
  cases member

theorem statusLine_plain :
    isHeadingLine (statusLine count) = false ∧ isEntryLine (statusLine count) = false :=
  ⟨rfl, rfl⟩

/-- Everything that is shown is read off the lines of a report again. -/
theorem readSections_reportLines
    (headed : ∀ shown ∈ sections, shown.1.toList.head? = some '[')
    (nonempty : entryCount sections = 0 → sections = []) :
    readSections (reportLines filesScanned sections) = sections := by
  have status (count : Nat) : readSections [statusLine count] = [] := rfl
  rw [reportLines, readSections_append fun line member => (headerLines_plain line member).1]
  by_cases none : entryCount sections = 0
  · rw [if_pos none, List.nil_append, status, nonempty none]
  · have blank (rest : List Line) : readSections ([] :: rest) = readSections rest := rfl
    simp [none, blank, readSections_flatMap headed, status]

theorem countP_flatMap (headed : ∀ shown ∈ sections, shown.1.toList.head? = some '[') :
    (sections.flatMap sectionLines).countP isEntryLine = entryCount sections := by
  induction sections with
  | nil => rfl
  | cons shown sections ih =>
      rw [List.forall_mem_cons] at headed
      rw [entryCount, List.flatMap_cons, List.flatMap_cons, List.countP_append, List.length_append,
        countP_sectionLines headed.1, ih headed.2]
      rfl

theorem countP_reportLines (headed : ∀ shown ∈ sections, shown.1.toList.head? = some '[') :
    (reportLines filesScanned sections).countP isEntryLine = entryCount sections := by
  have header (count : Nat) : (headerLines filesScanned count).countP isEntryLine = 0 :=
    List.countP_eq_zero.2 fun line member => by simp [headerLines_plain line member]
  have shown := countP_flatMap headed
  have blank : isEntryLine [] = false := rfl
  rw [reportLines]
  by_cases none : entryCount sections = 0
  · simp [none, header, statusLine_plain]
  · simp [none, header, statusLine_plain, shown, blank]

/-- No line of a report has a line feed if nothing that is shown has one. -/
theorem not_mem_reportLines
    (unbroken : ∀ shown ∈ sections,
      '\n' ∉ shown.1.toList ∧ ∀ entry ∈ shown.2, '\n' ∉ entry.toList) :
    ∀ line ∈ reportLines filesScanned sections, '\n' ∉ line := by
  have header (count : Nat) : ∀ line ∈ headerLines filesScanned count, '\n' ∉ line := by
    simp only [headerLines, List.forall_mem_cons]
    refine ⟨?_, ?_, ?_, ?_⟩
    · split <;> decide
    · simp [not_mem_toDigits]
    · simp [not_mem_toDigits]
    · intro line member
      cases member
  have status (count : Nat) : '\n' ∉ statusLine count := by
    unfold statusLine
    split <;> decide
  have shown : ∀ line ∈ sections.flatMap sectionLines, '\n' ∉ line := by
    intro line member
    rcases List.mem_flatMap.1 member with ⟨⟨heading, entries⟩, listed, member⟩
    rcases unbroken _ listed with ⟨heading', entries'⟩
    simp only [sectionLines, List.cons_append, List.mem_cons, List.mem_append, List.mem_map,
      List.not_mem_nil, or_false] at member
    rcases member with rfl | ⟨entry, inSection, rfl⟩ | rfl
    · simpa using heading'
    · simpa using entries' entry inSection
    · exact List.not_mem_nil
  intro line member
  rw [reportLines, List.mem_append, List.mem_append] at member
  rcases member with member | member | member
  · exact header _ line member
  · split at member
    · cases member
    · rcases List.mem_cons.1 member with rfl | member
      · exact List.not_mem_nil
      · exact shown line member
  · rcases List.mem_singleton.1 member with rfl
    exact status _

end Lines

section Results

variable {result other : AuditResult}

theorem head?_of_mem_sections {shown : String × List String} (member : shown ∈ sections result) :
    shown.1.toList.head? = some '[' := by
  rcases exists_heading_of_mem_sections member with ⟨finding, _, same⟩
  rw [← same, Finding.heading, String.toList_append, String.toList_append, String.toList_append]
  rfl

theorem sections_eq_nil (none : entryCount (sections result) = 0) :
    sections result = [] := by
  rw [entryCount_sections, List.length_eq_zero_iff] at none
  rw [sections, none]
  rfl

/-- The lines of the printed report are the lines that were put together. -/
theorem lines_text (oneLine : result.IsOneLine) :
    Text.lines (text result).toList = reportLines result.filesScanned (sections result) := by
  have unbroken : ∀ line ∈ reportLines result.filesScanned (sections result), '\n' ∉ line := by
    apply not_mem_reportLines
    intro shown member
    constructor
    · rcases exists_heading_of_mem_sections member with ⟨finding, listed, same⟩
      rw [← same]
      exact (oneLine finding listed).heading
    · intro entry inSection
      rcases exists_entry_of_mem_sections member entry inSection with ⟨finding, listed, rfl⟩
      exact not_mem_entry (oneLine finding listed)
  have nonempty : reportLines result.filesScanned (sections result) ≠ [] := List.cons_ne_nil _ _
  have separator : "\n".toList = ['\n'] := rfl
  rw [text, String.toList_intercalate, map_toList_textLines, separator, Text.lines,
    Text.split_eq_splitOn, List.splitOn_intercalate '\n' unbroken nonempty]

/-- What the lines of a report tell about the result. -/
structure Tells (lines : List Line) (result : AuditResult) : Prop where
  sections : readSections lines = sections result
  filesScanned :
    lines[1]? = some ("  Scanned: " ++ toString result.filesScanned ++ " files").toList
  /-- The number in the header is that of the entries. -/
  count : lines[2]? = some ("  Violations: " ++ toString (lines.countP isEntryLine)).toList
  entries : lines.countP isEntryLine = result.findings.length
  verdict : lines.head? = some "PRE-COMMIT AUDIT: PASS".toList ↔ result.findings = []
  status : lines.getLast? = some "  Status: COMMIT ALLOWED".toList ↔ result.findings = []

theorem head?_headerLines {filesScanned count : Nat} :
    (headerLines filesScanned count).head? = some "PRE-COMMIT AUDIT: PASS".toList ↔ count = 0 := by
  rw [headerLines, List.head?_cons, Option.some_inj]
  by_cases none : count = 0
  · simp only [none, if_true, iff_true]
    rfl
  · simp only [none, if_false, iff_false]
    decide

theorem statusLine_eq_allowed {count : Nat} :
    statusLine count = "  Status: COMMIT ALLOWED".toList ↔ count = 0 := by
  unfold statusLine
  by_cases none : count = 0
  · simp only [none, if_true, iff_true]
    rfl
  · simp only [none, if_false, iff_false]
    decide

theorem tells_text (oneLine : result.IsOneLine) :
    Tells (Text.lines (text result).toList) result := by
  have read : readSections (reportLines result.filesScanned (Report.sections result)) =
      Report.sections result :=
    readSections_reportLines (fun _ => head?_of_mem_sections) sections_eq_nil
  have counted : (reportLines result.filesScanned (Report.sections result)).countP isEntryLine =
      result.findings.length := by
    rw [countP_reportLines fun _ => head?_of_mem_sections, entryCount_sections]
  rw [lines_text oneLine]
  refine ⟨read, ?_, ?_, counted, ?_, ?_⟩
  · rw [String.toList_append, String.toList_append]
    rfl
  · rw [counted, ← entryCount_sections, String.toList_append]
    rfl
  · have nonempty (filesScanned count : Nat) : headerLines filesScanned count ≠ [] :=
      List.cons_ne_nil _ _
    rw [reportLines, List.head?_append_of_ne_nil _ (nonempty _ _), head?_headerLines,
      entryCount_sections, List.length_eq_zero_iff]
  · rw [reportLines, ← List.append_assoc, List.getLast?_concat, Option.some_inj,
      statusLine_eq_allowed, entryCount_sections, List.length_eq_zero_iff]

/--
The report of a result tells how many files were scanned, how many findings there are, and
whether there are none; its headings and the entries under them can be read off its lines. Two
results have the same report exactly if they agree on this.
-/
theorem text_eq_text_iff (oneLine : result.IsOneLine) (oneLine' : other.IsOneLine) :
    Tells (Text.lines (text result).toList) result ∧
      (text result = text other ↔
        result.filesScanned = other.filesScanned ∧
          result.findings.length = other.findings.length ∧ sections result = sections other) := by
  have told := tells_text oneLine
  have told' := tells_text oneLine'
  refine ⟨told, ?_, ?_⟩
  · intro same
    rw [← same] at told'
    have scanned := Option.some.inj (told.filesScanned.symm.trans told'.filesScanned)
    simp only [String.toList_inj, String.append_left_inj, String.append_right_inj,
      Nat.toString_eq_ofList_toDigits, String.ofList_inj] at scanned
    exact ⟨Text.toDigits_injective scanned, told.entries.symm.trans told'.entries,
      told.sections.symm.trans told'.sections⟩
  · rintro ⟨scanned, -, shown⟩
    have lines : (textLines result).map String.toList = (textLines other).map String.toList := by
      rw [map_toList_textLines, map_toList_textLines, scanned, shown]
    rw [text, text, List.map_injective_iff.2 (fun _ _ => String.toList_inj.1) lines]

/-- A finding of which the words of a report are said. -/
def oddFinding : Finding :=
  ⟨.forceUnwrap, "    a:1 — b.swift", 3, "  Status: COMMIT ALLOWED"⟩

def plainFinding : Finding :=
  ⟨.deprecatedApi, "a.swift", 4, "Use async/await instead of GCD"⟩

/-- The same findings are reported alike when those of another check come between them. -/
theorem text_eq_text_of_regrouped :
    text ⟨2, [oddFinding, plainFinding, oddFinding]⟩ =
        text ⟨2, [oddFinding, oddFinding, plainFinding]⟩ ∧
      Tells (Text.lines (text ⟨2, [oddFinding, plainFinding, oddFinding]⟩).toList)
        ⟨2, [oddFinding, plainFinding, oddFinding]⟩ := by
  have odd : oddFinding.IsOneLine := ⟨by decide, by decide, by decide, by decide⟩
  have plain : plainFinding.IsOneLine := ⟨by decide, by decide, by decide, by decide⟩
  have oneLine : AuditResult.IsOneLine ⟨2, [oddFinding, plainFinding, oddFinding]⟩ := by
    simp [AuditResult.IsOneLine, odd, plain]
  have oneLine' : AuditResult.IsOneLine ⟨2, [oddFinding, oddFinding, plainFinding]⟩ := by
    simp [AuditResult.IsOneLine, odd, plain]
  rcases text_eq_text_iff oneLine oneLine' with ⟨told, same⟩
  exact ⟨same.2 ⟨rfl, rfl, by decide⟩, told⟩

end Results

end Report

end Precommit
