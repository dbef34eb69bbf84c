import Precommit.Proofs.Audit.Assembly
import Precommit.Proofs.Check.ForceUnwrap
import Precommit.Proofs.Check.LineByLine
import Precommit.Proofs.Text.Stretches
import Precommit.Proofs.Text.Trim

/-!
# Literals in lines that unwrap a value

The marks of a false alarm are looked for in the whole line, so one in the text of a literal
hides an unwrap as well. Other texts do not: if the line is reported with the name of a value,
then it is with a literal in place of the name, as long as there are neither marks nor two
slashes in the literal (`findsAt_forceUnwrap_literal`).
-/

namespace Precommit

namespace Builtin

/-- The marks of a false alarm that are words. -/
def alarmWords : List String :=
  ["#available", "#unavailable", "XCTUnwrap", "@IBOutlet"]

theorem alarmWords_subset : alarmWords ⊆ falseAlarms := by
  decide

/-- The other marks have an exclamation mark or two slashes. -/
theorem falseAlarms_cases : ∀ mark ∈ falseAlarms,
    mark ∈ alarmWords ∨ '!' ∈ mark.toList ∨ "//".toList <:+: mark.toList := by
  decide

theorem unquoted_falseAlarms : ∀ mark ∈ falseAlarms, '"' ∉ mark.toList := by
  decide

/-- What closes a call and unwraps its value is no part of a mark. -/
theorem not_infix_closing : ∀ mark ∈ falseAlarms, ¬mark.toList <:+: ")!".toList := by
  decide

end Builtin

namespace Line

/-- The line has a mark of a false alarm, or an exclamation mark behind two slashes. -/
def HasFalseAlarm (line : Line) : Prop :=
  (∃ mark ∈ Builtin.falseAlarms, mark.toList <:+: line) ∨
    ∃ before between after, line = before ++ "//".toList ++ between ++ '!' :: after

/-- An address that is made of a text and unwrapped by force. -/
def forcedUrl (leading argument : List Char) : Line :=
  leading ++ "URL(string: ".toList ++ argument ++ ")!".toList

variable {leading literal stretch : List Char}

/-- What has no quotes is found around the literal or in it. -/
theorem infix_forcedUrl_literal_iff (unquoted : '"' ∉ stretch) :
    stretch <:+: forcedUrl leading ('"' :: literal ++ ['"']) ↔
      stretch <:+: leading ++ "URL(string: ".toList ∨ stretch <:+: literal ∨
        stretch <:+: ")!".toList := by
  have pieces : forcedUrl leading ('"' :: literal ++ ['"']) =
      (leading ++ "URL(string: ".toList) ++ '"' :: (literal ++ '"' :: ")!".toList) := by
    simp [forcedUrl]
  rw [pieces, Text.infix_separated_iff_of_notMem unquoted,
    Text.infix_separated_iff_of_notMem unquoted]

/-- Two slashes are followed by the exclamation mark at the end, if they are not within it. -/
theorem hasFalseAlarm_of_slashes {argument : List Char}
    (slashes : "//".toList <:+: leading ++ "URL(string: ".toList) :
    (forcedUrl leading argument).HasFalseAlarm := by
  rcases slashes with ⟨before, between, split⟩
  refine .inr ⟨before, between ++ argument ++ [')'], [], ?_⟩
  rw [forcedUrl, ← split]
  simp

theorem infix_forcedUrl {argument : List Char}
    (infixed : stretch <:+: leading ++ "URL(string: ".toList) :
    stretch <:+: forcedUrl leading argument :=
  List.infix_append_of_infix_left (List.infix_append_of_infix_left infixed)

/--
A literal in place of a name brings about a false alarm only if the literal has a word of the
marks or two slashes in it.
-/
theorem not_hasFalseAlarm_literal {name : List Char}
    (silent : ¬(forcedUrl leading name).HasFalseAlarm) (unmarked : '!' ∉ literal)
    (wordless : ∀ word ∈ Builtin.alarmWords, ¬word.toList <:+: literal)
    (unslashed : ¬"//".toList <:+: literal) :
    ¬(forcedUrl leading ('"' :: literal ++ ['"'])).HasFalseAlarm := by
  rintro (⟨mark, listed, infixed⟩ | ⟨before, between, after, split⟩)
  · rcases (infix_forcedUrl_literal_iff (Builtin.unquoted_falseAlarms mark listed)).1 infixed with
      around | inside | closing
    · exact silent (.inl ⟨mark, listed, infix_forcedUrl around⟩)
    · rcases Builtin.falseAlarms_cases mark listed with word | marked | slashes
      · exact wordless mark word inside
      · exact unmarked (inside.subset marked)
      · exact unslashed (slashes.trans inside)
    · exact Builtin.not_infix_closing mark listed closing
  · have slashes : "//".toList <:+: forcedUrl leading ('"' :: literal ++ ['"']) :=
      ⟨before, between ++ '!' :: after, by rw [split]; simp⟩
    rcases (infix_forcedUrl_literal_iff (by decide)).1 slashes with around | inside | closing
    · exact silent (hasFalseAlarm_of_slashes around)
    · exact unslashed inside
    · exact absurd closing (by decide)

/-- A comment begins with two slashes. -/
theorem slashes_of_isComment {line : Line} (comment : line.isComment = true) :
    "//".toList <:+: line := by
  have trimmed : Text.trim line <:+: line :=
    (Text.prefix_trimEnd _).isInfix.trans (List.dropWhile_suffix _).isInfix
  exact (isComment_iff.1 comment).isInfix.trans trimmed

end Line

namespace Check

variable {limit : Option Nat} {policy : Policy} {rules : RuleSet} {auditor : Auditor}
  {path : String} {line : Line} {leading literal : List Char}

open Line

/-- A line unwraps a value by force if four conditions come together. -/
theorem isForceUnwrap_iff_conditions (reads : rules.Reads limit policy) (unbroken : '\n' ∉ line) :
    isForceUnwrap rules line = true ↔
      line.isComment = false ∧ ¬line.HasFalseAlarm ∧
        rules.unwrapCandidate.isMatch line = true ∧ HasOperandBeforeMark line := by
  have alarms : rules.unwrapFalsePositive.isMatch line = true ↔ line.HasFalseAlarm :=
    reads.isMatch_unwrapFalsePositive_iff unbroken
  have byOperand : isForceUnwrap rules line = isForceUnwrapByOperand rules line := by
    apply isForceUnwrap_eq_byOperand
    intro infixed
    exact alarms.2 (.inl ⟨"!=", by decide, infixed⟩)
  rw [byOperand, isForceUnwrapByOperand_iff, ← alarms, Bool.not_eq_true]

/-- What the exclamation marks of the line say does not depend on the text in the call. -/
theorem hasOperandBeforeMark_forcedUrl {argument argument' : List Char}
    (unmarked : '!' ∉ argument') (operand : HasOperandBeforeMark (forcedUrl leading argument)) :
    HasOperandBeforeMark (forcedUrl leading argument') := by
  by_cases marked : '!' ∈ leading
  · rcases List.eq_append_cons_of_mem marked with ⟨before, after, rfl, first⟩
    have split (argument : List Char) : forcedUrl (before ++ '!' :: after) argument =
        before ++ '!' :: (after ++ "URL(string: ".toList ++ argument ++ ")!".toList) := by
      simp [forcedUrl]
    rw [split, hasOperandBeforeMark_iff first] at operand ⊢
    exact operand
  · have split : forcedUrl leading argument' =
        (leading ++ "URL(string: ".toList ++ argument' ++ [')']) ++ '!' :: [] := by
      simp [forcedUrl]
    have first : '!' ∉ leading ++ "URL(string: ".toList ++ argument' ++ [')'] := by
      simp [marked, unmarked]
    rw [split, hasOperandBeforeMark_iff first]
    exact ⟨')', List.getLast?_concat, by decide⟩

theorem isMatch_unwrapCandidate_forcedUrl (reads : rules.Reads limit policy)
    (argument : List Char) :
    rules.unwrapCandidate.isMatch (forcedUrl leading argument) = true := by
  rw [reads.isMatch_unwrapCandidate_iff]
  exact ⟨leading ++ "URL(string: ".toList ++ argument, ')', [], by simp [forcedUrl],
    .inr (by decide)⟩

/-- If the line with a name unwraps a value, so does the one with a literal without marks. -/
theorem isForceUnwrap_literal (reads : rules.Reads limit policy) (unbroken : '\n' ∉ leading)
    (unbroken' : '\n' ∉ literal) (unmarked : '!' ∉ literal)
    (wordless : ∀ word ∈ Builtin.alarmWords, ¬word.toList <:+: literal)
    (unslashed : ¬"//".toList <:+: literal)
    (unwraps : isForceUnwrap rules (forcedUrl leading ['s']) = true) :
    isForceUnwrap rules (forcedUrl leading ('"' :: literal ++ ['"'])) = true := by
  have unbrokenName : '\n' ∉ forcedUrl leading ['s'] := by
    simp [forcedUrl, unbroken]
  have unbrokenLiteral : '\n' ∉ forcedUrl leading ('"' :: literal ++ ['"']) := by
    simp [forcedUrl, unbroken, unbroken']
  have unmarked' : '!' ∉ '"' :: literal ++ ['"'] := by
    simp [unmarked]
  rw [isForceUnwrap_iff_conditions reads unbrokenName] at unwraps
  rw [isForceUnwrap_iff_conditions reads unbrokenLiteral]
  rcases unwraps with ⟨_, silent, _, operand⟩
  refine ⟨?_, not_hasFalseAlarm_literal silent unmarked wordless unslashed,
    isMatch_unwrapCandidate_forcedUrl reads _, hasOperandBeforeMark_forcedUrl unmarked' operand⟩
  rw [← Bool.not_eq_true]
  intro comment
  rcases (infix_forcedUrl_literal_iff (by decide)).1 (slashes_of_isComment comment) with
    around | inside | closing
  · exact silent (hasFalseAlarm_of_slashes around)
  · exact unslashed inside
  · exact absurd closing (by decide)

/-- A word of the marks hides an unwrap wherever it stands on the line. -/
theorem isForceUnwrap_eq_false_of_word (reads : rules.Reads limit policy) (unbroken : '\n' ∉ line)
    {word : String} (listed : word ∈ Builtin.alarmWords) (infixed : word.toList <:+: line) :
    isForceUnwrap rules line = false := by
  rw [← Bool.not_eq_true, isForceUnwrap_iff_conditions reads unbroken]
  rintro ⟨_, silent, _⟩
  exact silent (.inl ⟨word, Builtin.alarmWords_subset listed, infixed⟩)

theorem findsAt_forceUnwrap_iff (before : List Line) (line : Line) (after : List Line) :
    forceUnwrap.FindsAt auditor path (before ++ line :: after) (before.length + 1) ↔
      auditor.classifier.isSourceFile path = true ∧ isForceUnwrap auditor.rules line = true := by
  rw [findsAt_iff, appliesTo, considers, reports]
  cases isForceUnwrap auditor.rules line <;> simp

/--
Wherever a line of a source file is reported because the address in it is made of the text in
some variable and unwrapped, the line is reported with a literal in place of the variable too, if
the literal has neither a word of the marks of a false alarm nor two slashes in it. With such a
word in the literal the line is not reported.
-/
theorem findsAt_forceUnwrap_literal (read : Auditor.ofPolicy policy limit = .ok auditor)
    (unbroken : '\n' ∉ leading) (unbroken' : '\n' ∉ literal) (unmarked : '!' ∉ literal)
    (before after : List Line)
    (reported : forceUnwrap.FindsAt auditor path
      (before ++ (leading ++ "URL(string: s)!".toList) :: after) (before.length + 1)) :
    let line := leading ++ "URL(string: \"".toList ++ literal ++ "\")!".toList
    ((∀ word ∈ ["#available", "#unavailable", "XCTUnwrap", "@IBOutlet"],
        ¬word.toList <:+: literal) → ¬"//".toList <:+: literal →
      forceUnwrap.FindsAt auditor path (before ++ line :: after) (before.length + 1)) ∧
    ((∃ word ∈ ["#available", "#unavailable", "XCTUnwrap", "@IBOutlet"],
        word.toList <:+: literal) →
      ¬forceUnwrap.FindsAt auditor path (before ++ line :: after) (before.length + 1)) := by
  intro line
  have reads := (Auditor.ofPolicy_eq_ok_iff.1 read).1
  have withName : leading ++ "URL(string: s)!".toList = forcedUrl leading ['s'] := by
    simp [forcedUrl]
  have withLiteral : line = forcedUrl leading ('"' :: literal ++ ['"']) := by
    simp [line, forcedUrl]
  rw [withName, findsAt_forceUnwrap_iff] at reported
  rw [withLiteral, findsAt_forceUnwrap_iff]
  constructor
  · intro wordless unslashed
    exact ⟨reported.1, isForceUnwrap_literal reads unbroken unbroken' unmarked wordless unslashed
      reported.2⟩
  · rintro ⟨word, listed, inside⟩ ⟨_, unwraps⟩
    have onLine : word.toList <:+: forcedUrl leading ('"' :: literal ++ ['"']) := by
      refine inside.trans ⟨leading ++ "URL(string: \"".toList, "\")!".toList, ?_⟩
      simp [forcedUrl]
    have unbrokenLine : '\n' ∉ forcedUrl leading ('"' :: literal ++ ['"']) := by
      simp [forcedUrl, unbroken, unbroken']
    rw [isForceUnwrap_eq_false_of_word reads unbrokenLine listed onLine] at unwraps
    cases unwraps

theorem isForceUnwrap_forcedUrl_name (reads : rules.Reads limit policy) :
    isForceUnwrap rules (forcedUrl "let a = ".toList ['s']) = true := by
  have noSlash : '/' ∉ forcedUrl "let a = ".toList ['s'] := by decide
  rw [isForceUnwrap_iff_conditions reads (by decide)]
  refine ⟨by decide +kernel, ?_, isMatch_unwrapCandidate_forcedUrl reads _,
    "let a = URL(string: s".toList, ')', [], by decide, by decide, by decide, by decide⟩
  rintro (⟨mark, listed, infixed⟩ | ⟨before, between, after, split⟩)
  · have silent : ∀ mark ∈ Builtin.falseAlarms,
        ¬mark.toList <:+: forcedUrl "let a = ".toList ['s'] := by
      decide +kernel
    exact silent mark listed infixed
  · rw [split] at noSlash
    simp at noSlash

theorem exists_isSourceFile_builtin :
    ∃ auditor, Auditor.ofPolicy {} = .ok auditor ∧
      auditor.classifier.isSourceFile "A.swift" = true := by
  rcases Auditor.exists_ofPolicy_builtin with ⟨auditor, read⟩
  obtain rfl := Auditor.eq_assembled read
  exact ⟨.assembled {}, read, by decide +kernel⟩

/-- One slash, and two with a character in between, are no comment. -/
theorem findsAt_forceUnwrap_literal_slashes :
    ∃ auditor, Auditor.ofPolicy {} = .ok auditor ∧
      forceUnwrap.FindsAt auditor "A.swift"
        ["import A".toList, "let a = URL(string: s)!".toList] 2 ∧
      forceUnwrap.FindsAt auditor "A.swift"
        ["import A".toList, "let a = URL(string: \"größe:/./\")!".toList] 2 := by
  rcases exists_isSourceFile_builtin with ⟨auditor, read, isSource⟩
  have reads := (Auditor.ofPolicy_eq_ok_iff.1 read).1
  have reported := (findsAt_forceUnwrap_iff ["import A".toList]
    (forcedUrl "let a = ".toList ['s']) []).2 ⟨isSource, isForceUnwrap_forcedUrl_name reads⟩
  have wordless : ∀ word ∈ ["#available", "#unavailable", "XCTUnwrap", "@IBOutlet"],
      ¬word.toList <:+: "größe:/./".toList := by
    decide +kernel
  have literal := findsAt_forceUnwrap_literal read (by decide : '\n' ∉ "let a = ".toList)
    (by decide : '\n' ∉ "größe:/./".toList) (by decide) ["import A".toList] [] reported
  exact ⟨auditor, read, reported, literal.1 wordless (by decide)⟩

/-- A word of the marks in a literal hides an unwrap, and so do two slashes. -/
theorem not_findsAt_forceUnwrap_hidden :
    ∃ auditor, Auditor.ofPolicy {} = .ok auditor ∧
      forceUnwrap.FindsAt auditor "A.swift" ["let a = URL(string: s)!".toList] 1 ∧
      ¬forceUnwrap.FindsAt auditor "A.swift" ["let a = URL(string: \"XCTUnwrap\")!".toList] 1 ∧
      ¬forceUnwrap.FindsAt auditor "A.swift"
        ["let a = URL(string: \"https://a.b\")!".toList] 1 := by
  rcases exists_isSourceFile_builtin with ⟨auditor, read, isSource⟩
  have reads := (Auditor.ofPolicy_eq_ok_iff.1 read).1
  refine ⟨auditor, read, ?_, ?_, ?_⟩
  · exact (findsAt_forceUnwrap_iff [] (forcedUrl "let a = ".toList ['s']) []).2
      ⟨isSource, isForceUnwrap_forcedUrl_name reads⟩
  · intro found
    have unwraps := ((findsAt_forceUnwrap_iff [] _ []).1 found).2
    have word : "XCTUnwrap".toList <:+: "let a = URL(string: \"XCTUnwrap\")!".toList := by
      decide +kernel
    rw [isForceUnwrap_eq_false_of_word reads (by decide) (by decide) word] at unwraps
    cases unwraps
  · intro found
    have unwraps := ((findsAt_forceUnwrap_iff [] _ []).1 found).2
    rw [isForceUnwrap_iff_conditions reads (by decide)] at unwraps
    exact unwraps.2.1 (.inr ⟨"let a = URL(string: \"https:".toList, "a.b\")".toList, [], rfl⟩)

end Check

end Precommit
