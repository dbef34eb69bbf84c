import Mathlib.Data.List.TakeWhile
import Precommit.Check
import Precommit.Proofs.Pattern.Language
import Precommit.Proofs.Rule.Builtin
import Precommit.Proofs.Text.Boundaries

/-!
# Values unwrapped by force, character by character

Two patterns and a look at the first exclamation mark decide whether a line unwraps a value.
Said without patterns: the line is no comment, has none of the marks of a false alarm, has an
exclamation mark after an operand, and the first one does not stand before an operand
(`isForceUnwrap_iff`).
-/

namespace Precommit

open Pattern

namespace Utf8

/-- Around the byte of the first exclamation mark all characters are whole. -/
theorem split_encode_mark {before : List Char} (first : '!' ∉ before) (after : List Char) :
    let bytes := encode (before ++ '!' :: after)
    bytes.take (bytes.idxOf 0x21) = encode before ∧
      bytes.drop (bytes.idxOf 0x21 + 1) = encode after := by
  intro bytes
  have absent : 0x21 ∉ encode before := by
    intro member
    exact first (mem_of_mem_encode (by decide) member)
  have bytes_eq : bytes = encode before ++ 0x21 :: encode after :=
    List.flatMap_append
  have index : bytes.idxOf 0x21 = (encode before).length := by
    rw [bytes_eq, List.idxOf_append_of_notMem absent, List.idxOf_cons_self, Nat.add_zero]
  rw [index, bytes_eq]
  simp

end Utf8

namespace Builtin

/-- The marks of a line on which no exclamation mark is taken for an unwrap. -/
def falseAlarms : List String :=
  ["!=", "!==", "#available", "#unavailable", "XCTUnwrap", "@IBOutlet", "///"]

theorem parse?_unwrapCandidate :
    parse? {} unwrapCandidate.toList =
      some (sequenceAll [.char (.union .word (.ofList [')', '>', ']', '"'])),
        .char (.single '!')]) := by
  rw [Utf8.toList_eq_decode]
  decide +kernel

theorem parse?_unwrapFalsePositive :
    parse? {} unwrapFalsePositive.toList =
      some (alternativeAll ((falseAlarms.map fun mark => text mark.toList) ++
        [sequenceAll [.char (.single '/'), .char (.single '/'),
          star (.char (.complement (.single '\n'))), .char (.single '!')]])) := by
  simp only [Utf8.toList_eq_decode]
  decide +kernel

/-- Two equals signs after an exclamation mark are one and another. -/
theorem exists_falseAlarm_iff {line : Line} :
    (∃ mark ∈ falseAlarms, mark.toList <:+: line) ↔
      ∃ mark ∈ ["!=", "#available", "#unavailable", "XCTUnwrap", "@IBOutlet", "///"],
        mark.toList <:+: line := by
  constructor
  · rintro ⟨mark, listed, infixed⟩
    by_cases same : mark = "!=="
    · have shorter : "!=".toList <:+: "!==".toList := ⟨[], ['='], rfl⟩
      rw [same] at infixed
      exact ⟨"!=", by simp, shorter.trans infixed⟩
    · refine ⟨mark, ?_, infixed⟩
      simp only [falseAlarms, List.mem_cons, List.not_mem_nil] at listed ⊢
      tauto
  · rintro ⟨mark, listed, infixed⟩
    refine ⟨mark, ?_, infixed⟩
    simp only [falseAlarms, List.mem_cons, List.not_mem_nil] at listed ⊢
    tauto

end Builtin

namespace RuleSet

variable {limit : Option Nat} {policy : Policy} {rules : RuleSet} {line : Line}

theorem Reads.isMatch_unwrapCandidate_iff (reads : rules.Reads limit policy) :
    rules.unwrapCandidate.isMatch line = true ↔
      ∃ before operand after, line = before ++ operand :: '!' :: after ∧
        (Unicode.isWord operand = true ∨ operand ∈ [')', '>', ']', '"']) := by
  have parsed := parse?_of_compile? reads.unwrapCandidate
  rw [Builtin.parse?_unwrapCandidate, Option.some.injEq] at parsed
  rw [← parsed, ((describes_char _).cons (describes_char _).last).sequenceAll.isMatch_iff]
  simp only [mem_mul_iff_split, CharSet.mem_one_iff, CharSet.contains_single_iff,
    exists_eq_left, CharSet.contains, Bool.or_eq_true, CharSet.contains_ofList_iff]
  constructor
  · rintro ⟨_, ⟨_, _, rfl, ⟨operand, isOperand, rfl⟩, rfl⟩, before, after, rfl⟩
    exact ⟨before, operand, after, by simp, isOperand⟩
  · rintro ⟨before, operand, after, rfl, isOperand⟩
    exact ⟨_, ⟨_, _, rfl, ⟨operand, isOperand, rfl⟩, rfl⟩, before, after, by simp⟩

theorem Reads.isMatch_unwrapFalsePositive_iff (reads : rules.Reads limit policy)
    (unbroken : '\n' ∉ line) :
    rules.unwrapFalsePositive.isMatch line = true ↔
      (∃ mark ∈ Builtin.falseAlarms, mark.toList <:+: line) ∨
        ∃ before between after, line = before ++ "//".toList ++ between ++ '!' :: after := by
  have parsed := parse?_of_compile? reads.unwrapFalsePositive
  rw [Builtin.parse?_unwrapFalsePositive, Option.some.injEq] at parsed
  rw [← parsed, isMatch_alternativeAll_iff]
  simp only [List.mem_append, List.mem_map, List.mem_singleton, or_and_right, exists_or,
    exists_exists_and_eq_and, exists_eq_left, isMatch_text_iff]
  refine or_congr_right ?_
  have remark := ((describes_char (.single '/')).cons ((describes_char (.single '/')).cons
    ((describes_star_char (.complement (.single '\n'))).cons
      (describes_char (.single '!')).last))).sequenceAll
  rw [remark.isMatch_iff]
  simp only [mem_mul_iff_split, CharSet.mem_one_iff, CharSet.mem_many_iff,
    CharSet.contains_single_iff, CharSet.contains_complement_single_iff, exists_eq_left]
  constructor
  · rintro ⟨_, ⟨_, _, rfl, rfl, _, _, rfl, rfl, between, _, rfl, _, rfl⟩, before, after, rfl⟩
    exact ⟨before, between, after, by simp⟩
  · rintro ⟨before, between, after, rfl⟩
    have noFeed : ∀ character ∈ between, character ≠ '\n' := by
      rintro character member rfl
      exact unbroken (by simp [member])
    exact ⟨_, ⟨_, _, rfl, rfl, _, _, rfl, rfl, between, _, rfl, ⟨Nat.zero_le _, noFeed⟩, rfl⟩,
      before, after, by simp⟩

end RuleSet

theorem Line.isComment_iff {line : Line} :
    line.isComment = true ↔ "//".toList <+: Text.trim line :=
  List.isPrefixOf_iff_prefix

namespace Check

variable {rules : RuleSet} {line : Line}

/-! ### The first exclamation mark -/

/-- The first exclamation mark of a line divides it. -/
theorem dropWhile_mark {before : List Char} (none : '!' ∉ before) (after : List Char) :
    (before ++ '!' :: after).dropWhile (· != '!') = '!' :: after := by
  rw [List.dropWhile_append_of_pos]
  · rfl
  · rintro character member
    exact bne_iff_ne.2 fun same => none (same ▸ member)

theorem takeWhile_mark {before : List Char} (none : '!' ∉ before) (after : List Char) :
    (before ++ '!' :: after).takeWhile (· != '!') = before := by
  rw [List.takeWhile_append_of_pos]
  · exact List.append_nil before
  · rintro character member
    exact bne_iff_ne.2 fun same => none (same ▸ member)

theorem dropWhile_unmarked (unmarked : '!' ∉ line) : line.dropWhile (· != '!') = [] := by
  rw [List.dropWhile_eq_nil_iff]
  intro character member
  exact bne_iff_ne.2 fun same => unmarked (same ▸ member)

/-- The line has a first exclamation mark, and before it a character that can end an operand. -/
def HasOperandBeforeMark (line : Line) : Prop :=
  ∃ before previous after, line = before ++ previous :: '!' :: after ∧ '!' ∉ before ∧
    previous ≠ '!' ∧ previous ∉ operatorContext

theorem hasOperandBeforeMark_iff {before : List Char} (none : '!' ∉ before) (after : List Char) :
    HasOperandBeforeMark (before ++ '!' :: after) ↔
      ∃ previous, before.getLast? = some previous ∧ previous ∉ operatorContext := by
  constructor
  · rintro ⟨before', previous, after', split, none', notMark, operand⟩
    have none'' : '!' ∉ before' ++ [previous] := by
      simp [none', Ne.symm notMark]
    have shifted : before' ++ previous :: '!' :: after' =
        (before' ++ [previous]) ++ '!' :: after' := by
      simp
    have same := congrArg (List.takeWhile (· != '!')) (split.trans shifted)
    rw [takeWhile_mark none, takeWhile_mark none''] at same
    exact ⟨previous, by simp [same], operand⟩
  · rintro ⟨previous, last, operand⟩
    rcases List.getLast?_eq_some_iff.1 last with ⟨before, rfl⟩
    simp only [List.mem_append, List.mem_singleton, not_or] at none
    exact ⟨before, previous, after, by simp, none.1, Ne.symm none.2, operand⟩

/-- `isForceUnwrap` without a look at the character after the first exclamation mark. -/
def isForceUnwrapByOperand (rules : RuleSet) (line : Line) : Bool :=
  !line.isComment && !rules.unwrapFalsePositive.isMatch line &&
    rules.unwrapCandidate.isMatch line &&
    match line.dropWhile (· != '!') with
    | [] => false
    | _ :: _ =>
        match (line.takeWhile (· != '!')).getLast? with
        | none => false
        | some previous => !operatorContext.contains previous

theorem isForceUnwrapByOperand_iff :
    isForceUnwrapByOperand rules line = true ↔
      line.isComment = false ∧ rules.unwrapFalsePositive.isMatch line = false ∧
        rules.unwrapCandidate.isMatch line = true ∧ HasOperandBeforeMark line := by
  unfold isForceUnwrapByOperand
  simp only [Bool.and_eq_true, Bool.not_eq_true', and_assoc]
  refine and_congr_right fun _ => and_congr_right fun _ => and_congr_right fun _ => ?_
  by_cases marked : '!' ∈ line
  · rcases List.eq_append_cons_of_mem marked with ⟨before, after, rfl, none⟩
    rw [dropWhile_mark none, takeWhile_mark none, hasOperandBeforeMark_iff none]
    cases before.getLast? <;> simp
  · rw [dropWhile_unmarked marked]
    refine iff_of_false Bool.noConfusion ?_
    rintro ⟨before, previous, after, rfl, _⟩
    exact marked (by simp)

/-- Where an equals sign follows an exclamation mark, the line has been left alone before. -/
theorem isForceUnwrap_eq_byOperand
    (alarms : "!=".toList <:+: line → rules.unwrapFalsePositive.isMatch line = true) :
    isForceUnwrap rules line = isForceUnwrapByOperand rules line := by
  unfold isForceUnwrap isForceUnwrapByOperand
  cases alarmed : rules.unwrapFalsePositive.isMatch line with
  | true => simp
  | false =>
      congr 1
      by_cases marked : '!' ∈ line
      · rcases List.eq_append_cons_of_mem marked with ⟨before, after, rfl, none⟩
        rw [dropWhile_mark none]
        have noEquals : (after.head? != some '=') = true := by
          rw [bne_iff_ne]
          intro equals
          rcases List.head?_eq_some_iff.1 equals with ⟨rest, rfl⟩
          have alarm := alarms ⟨before, rest, by simp⟩
          rw [alarmed] at alarm
          cases alarm
        rw [takeWhile_mark none]
        cases before.getLast? <;> simp [noEquals]
      · rw [dropWhile_unmarked marked]

/-! ### The whole line -/

/--
With the rules of a policy, a line unwraps a value exactly if it is no comment, has none of the
marks of a false alarm and no exclamation mark behind two slashes, has an exclamation mark after
a word character or a closing character, and its first exclamation mark comes after a character
that is none of those before an operand. The character after the first exclamation mark makes
no difference, and the byte of that mark divides the bytes of the line between characters.
-/
theorem isForceUnwrap_iff {limit : Option Nat} {policy : Policy}
    (read : RuleSet.ofPolicy policy limit = .ok rules) (unbroken : '\n' ∉ line) :
    (isForceUnwrap rules line = true ↔
      ¬"//".toList <+: Text.trim line ∧
      (∀ mark ∈ ["!=", "#available", "#unavailable", "XCTUnwrap", "@IBOutlet", "///"],
        ¬mark.toList <:+: line) ∧
      (¬∃ before between after, line = before ++ "//".toList ++ between ++ '!' :: after) ∧
      (∃ before operand after, line = before ++ operand :: '!' :: after ∧
        (Unicode.isWord operand = true ∨ operand ∈ [')', '>', ']', '"'])) ∧
      ∃ before previous after, line = before ++ previous :: '!' :: after ∧ '!' ∉ before ∧
        previous ≠ '!' ∧ previous ∉ [' ', '\t', '(', '{', '[', ',', '=', ':']) ∧
    isForceUnwrap rules line = isForceUnwrapByOperand rules line ∧
    ∀ before after, line = before ++ '!' :: after → '!' ∉ before →
      let bytes := Utf8.encode line
      Utf8.decode? (bytes.take (bytes.idxOf 0x21)) = some before ∧
        Utf8.decode? (bytes.drop (bytes.idxOf 0x21 + 1)) = some after := by
  have reads := RuleSet.ofPolicy_eq_ok_iff.1 read
  have alarms := reads.isMatch_unwrapFalsePositive_iff unbroken
  have byOperand : isForceUnwrap rules line = isForceUnwrapByOperand rules line := by
    apply isForceUnwrap_eq_byOperand
    intro infixed
    exact alarms.2 (.inl ⟨"!=", by decide, infixed⟩)
  refine ⟨?_, byOperand, ?_⟩
  · rw [byOperand, isForceUnwrapByOperand_iff, reads.isMatch_unwrapCandidate_iff,
      ← Bool.not_eq_true, ← Bool.not_eq_true, alarms, not_or, Builtin.exists_falseAlarm_iff,
      Line.isComment_iff, and_assoc]
    simp only [not_exists, not_and]
    rfl
  · rintro before after rfl first
    have sides := Utf8.split_encode_mark first after
    intro bytes
    rw [sides.1, sides.2]
    exact ⟨Utf8.decode?_encode before, Utf8.decode?_encode after⟩

/-- The first exclamation mark decides, and the characters around it are not of one byte. -/
theorem isForceUnwrap_iff_indexed :
    ∃ rules, RuleSet.ofPolicy {} = .ok rules ∧
      isForceUnwrap rules "größe[é]!.ß!".toList = true ∧
        let bytes := Utf8.encode "größe[é]!.ß!".toList
        Utf8.decode? (bytes.take (bytes.idxOf 0x21)) = some "größe[é]".toList ∧
          Utf8.decode? (bytes.drop (bytes.idxOf 0x21 + 1)) = some ".ß!".toList := by
  rcases RuleSet.exists_ofPolicy_builtin with ⟨rules, read⟩
  have unbroken : '\n' ∉ "größe[é]!.ß!".toList := by decide +kernel
  have notComment : ¬"//".toList <+: Text.trim "größe[é]!.ß!".toList := by decide +kernel
  have noAlarm : ∀ mark ∈ ["!=", "#available", "#unavailable", "XCTUnwrap", "@IBOutlet", "///"],
      ¬mark.toList <:+: "größe[é]!.ß!".toList := by
    decide +kernel
  have noSlash : '/' ∉ "größe[é]!.ß!".toList := by decide +kernel
  have noRemark : ¬∃ before between after,
      "größe[é]!.ß!".toList = before ++ "//".toList ++ between ++ '!' :: after := by
    rintro ⟨before, between, after, split⟩
    rw [split] at noSlash
    simp at noSlash
  rcases isForceUnwrap_iff read unbroken with ⟨unwraps, _, sides⟩
  refine ⟨rules, read, unwraps.2 ⟨notComment, noAlarm, noRemark, ?_, ?_⟩,
    sides "größe[é]".toList ".ß!".toList rfl (by decide)⟩
  · exact ⟨"größe[é".toList, ']', ".ß!".toList, rfl, .inr (by decide)⟩
  · exact ⟨"größe[é".toList, ']', ".ß!".toList, rfl, by decide, by decide, by decide⟩

end Check

end Precommit
