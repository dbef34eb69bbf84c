import Precommit.Proofs.Audit.Assembly
import Precommit.Proofs.Check.ForceUnwrap
import Precommit.Proofs.Check.LineByLine
import Precommit.Proofs.Pattern.WordEdges
import Precommit.Proofs.Rule.Firing

/-!
# Banned interfaces, word by word

Most entries of the table of banned interfaces are an identifier between two word edges. Such an
entry is reported for a line if the identifier is one of the words of the line, and an identifier
inside of a longer one is none (`findings_bannedApi_line`).
-/

namespace Precommit

open Pattern

/-- The text is a word between edges. -/
def RuleText.LooksForWord (text : RuleText) (word : List Char) : Prop :=
  word ≠ [] ∧ (∀ character ∈ word, Unicode.isWord character = true) ∧
    text.source.toList = "\\b".toList ++ word ++ "\\b".toList

namespace Builtin

/-- The identifiers that are banned wherever they are a word of the line. -/
def bannedWords : List String :=
  ["ObservableObject", "PassthroughSubject", "CurrentValueSubject", "AnyCancellable",
    "DispatchQueue", "DispatchGroup", "DispatchSemaphore", "performSelector", "PreviewProvider",
    "UIHostingController", "UIViewController", "AnyPublisher", "Cancellable"]

theorem exists_looksForWord : ∀ name ∈ bannedWords, ∃ entry ∈ bannedApis,
    entry.LooksForWord name.toList := by
  simp only [RuleText.LooksForWord, ← List.all_eq_true, Utf8.toList_eq_decode]
  decide +kernel

/-- What is between the edges if the text is a word between edges. -/
def betweenEdges (source : List Char) : List Char :=
  (source.drop 2).dropLast.dropLast

-- For the entries that are no word between edges, the equation of texts is false.
theorem parse?_betweenEdges : ∀ entry ∈ bannedApis,
    entry.source.toList = "\\b".toList ++ betweenEdges entry.source.toList ++ "\\b".toList →
      (betweenEdges entry.source.toList).all Unicode.isWord = true →
        parse? {} entry.source.toList = some (wordPattern (betweenEdges entry.source.toList)) := by
  simp only [Utf8.toList_eq_decode]
  decide +kernel

theorem parse?_of_looksForWord {entry : RuleText} (listed : entry ∈ bannedApis) {word : List Char}
    (looks : entry.LooksForWord word) :
    parse? {} entry.source.toList = some (wordPattern word) := by
  rcases looks with ⟨_, isRun, source_eq⟩
  have between : betweenEdges entry.source.toList = word := by
    rw [source_eq]
    simp [betweenEdges]
  have parsed := parse?_betweenEdges entry listed
  rw [between] at parsed
  exact parsed source_eq (List.all_eq_true.2 isRun)

theorem nodup_bannedApis : bannedApis.Nodup := by
  decide +kernel

/-- The entries with a pattern that matches the line, in the order of the table. -/
def bannedIn (line : Line) : List RuleText :=
  bannedApis.filter fun entry => (parse? {} entry.source.toList).any (·.isMatch line)

variable {line : Line} {entry : RuleText}

theorem mem_bannedIn_iff (listed : entry ∈ bannedApis) :
    entry ∈ bannedIn line ↔
      ∃ pattern, parse? {} entry.source.toList = some pattern ∧ pattern.Matches line := by
  rw [bannedIn, List.mem_filter, and_iff_right listed, Option.any_eq_true]
  simp only [isMatch_iff]

theorem mem_bannedIn_iff_mem_words (listed : entry ∈ bannedApis) {word : List Char}
    (looks : entry.LooksForWord word) : entry ∈ bannedIn line ↔ word ∈ Line.words line := by
  have parsed := parse?_of_looksForWord listed looks
  rw [bannedIn, List.mem_filter, and_iff_right listed, parsed, Option.any_some]
  exact isMatch_wordPattern_iff looks.1 looks.2.1

end Builtin

namespace Check

variable {limit : Option Nat} {policy : Policy} {auditor : Auditor} {path : String}

theorem reports_bannedApi (reads : auditor.rules.Reads limit policy) (line : Line) :
    bannedApi.reports auditor line =
      (Builtin.bannedIn line).map fun entry => (entry.label, entry.message) := by
  rw [reports, RuleTable.firing, reads.apiMode, Builtin.bannedIn,
    ← reads.apis.map_filter_rules line, List.map_map]
  rfl

/--
In a source file, what is reported for a line that is no comment are the entries of the table
whose patterns match it, each once and with its own label and message, in the order of the
table. An entry that is a word between edges is among them if the word is one of the words of
the line.
-/
theorem findings_bannedApi_line (read : Auditor.ofPolicy policy limit = .ok auditor)
    (isSource : auditor.classifier.isSourceFile path = true) (before : List Line) (line : Line)
    (after : List Line) (notComment : ¬"//".toList <+: Text.trim line) :
    let found := (bannedApi.findings auditor path (before ++ line :: after)).filter
      fun finding => finding.line == before.length + 1
    ∃ entries : List RuleText, entries.Sublist Builtin.bannedApis ∧ entries.Nodup ∧
      (found = entries.map fun entry =>
        { label := entry.label, file := path, line := before.length + 1,
          detail := entry.message }) ∧
      (∀ entry ∈ Builtin.bannedApis, entry ∈ entries ↔
        ∃ pattern, parse? {} entry.source.toList = some pattern ∧ pattern.Matches line) ∧
      (∀ entry ∈ Builtin.bannedApis, ∀ word, entry.LooksForWord word →
        (entry ∈ entries ↔ word ∈ Line.words line)) ∧
      ∀ name ∈ Builtin.bannedWords, ∃ entry ∈ Builtin.bannedApis,
        entry.LooksForWord name.toList := by
  intro found
  have reads := (Auditor.ofPolicy_eq_ok_iff.1 read).1
  have considered : bannedApi.considers auditor.rules (0 < Line.depthAfter before) line = true := by
    rwa [considers, Bool.not_eq_true', ← Bool.not_eq_true, Line.isComment_iff]
  have sublist : (Builtin.bannedIn line).Sublist Builtin.bannedApis := List.filter_sublist
  refine ⟨Builtin.bannedIn line, sublist, Builtin.nodup_bannedApis.sublist sublist, ?_, ?_, ?_,
    Builtin.exists_looksForWord⟩
  · simp only [found]
    rw [filter_findings_line, appliesTo, if_pos isSource, lineFindings, if_pos considered,
      reports_bannedApi reads, List.map_map]
    rfl
  · intro entry listed
    exact Builtin.mem_bannedIn_iff listed
  · intro entry listed word looks
    exact Builtin.mem_bannedIn_iff_mem_words listed looks

/-- Of an identifier and one that it contains, the longer one is reported and not the other. -/
theorem findings_bannedApi_line_longest :
    ∃ auditor, Auditor.ofPolicy {} = .ok auditor ∧
      let lines := ["import SwiftUI".toList, "var bag = Set<AnyCancellable>()".toList]
      let found := (bannedApi.findings auditor "A.swift" lines).filter
        fun finding => finding.line == 2
      { label := .combineUsage, file := "A.swift", line := 2,
        detail := "Combine type prohibited" } ∈ found ∧
      { label := .combineUsage, file := "A.swift", line := 2,
        detail := "Combine protocol prohibited" } ∉ found := by
  rcases Auditor.exists_ofPolicy_builtin with ⟨auditor, read⟩
  obtain rfl := Auditor.eq_assembled read
  refine ⟨.assembled {}, read, ?_⟩
  have isSource : (Classifier.assembled {}).isSourceFile "A.swift" = true := by decide +kernel
  rcases findings_bannedApi_line read isSource ["import SwiftUI".toList]
    "var bag = Set<AnyCancellable>()".toList [] (by decide +kernel) with
    ⟨entries, sublist, _, found_eq, _, words, _⟩
  have longer : RuleText.combine "\\bAnyCancellable\\b" "Combine type prohibited" ∈ entries := by
    apply (words _ (by decide +kernel) "AnyCancellable".toList ?_).2
    · decide +kernel
    · exact ⟨by decide, List.all_eq_true.1 (by decide +kernel), rfl⟩
  intro lines found
  have listed : found = _ := found_eq
  rw [listed]
  constructor
  · exact List.mem_map.2 ⟨_, longer, rfl⟩
  · intro member
    rcases List.mem_map.1 member with ⟨entry, reported, same⟩
    have message : entry.message = "Combine protocol prohibited" := congrArg Finding.detail same
    have only : ∀ entry ∈ Builtin.bannedApis, entry.message = "Combine protocol prohibited" →
        entry.source = "\\bCancellable\\b" := by
      decide +kernel
    have source := only entry (sublist.subset reported) message
    have looks : entry.LooksForWord "Cancellable".toList :=
      ⟨by decide, List.all_eq_true.1 (by decide +kernel), by rw [source]; rfl⟩
    have absent : "Cancellable".toList ∉ Line.words "var bag = Set<AnyCancellable>()".toList := by
      decide +kernel
    exact absent ((words entry (sublist.subset reported) _ looks).1 reported)

end Check

end Precommit
