import Precommit.Proofs.Audit.Assembly
import Precommit.Proofs.Check.LineByLine
import Precommit.Proofs.FirstLine
import Precommit.Proofs.Pattern.Respelling
import Precommit.Proofs.Text.LineBreaks

/-!
# Phrases in another spelling

The built-in phrases are found in whatever case they are written and whatever white space stands
between their words. So a file has the same forbidden phrases in the same lines if it is spelled
in another way, as long as its lines end where they did, and so has the first line of a commit
message (`phrases_respelled`).
-/

namespace Precommit

open Unicode

namespace Text

/-- The texts have the same line ends and are spelled in another way between them. -/
def RespelledInLines (text text' : List Char) : Prop :=
  List.Forall₂ (fun character character' =>
    Alike character character' ∧ (character = '\r' ↔ character' = '\r')) text text'

instance : DecidableRel RespelledInLines :=
  fun _ _ => inferInstanceAs (Decidable (List.Forall₂ _ _ _))

variable {text text' : List Char} {line line' : Line} {lines : List Line}

namespace RespelledInLines

theorem respelled (same : RespelledInLines text text') : Respelled text text' :=
  same.imp fun _ _ related => related.1

theorem isUnbroken (same : RespelledInLines line line') (unbroken : IsUnbroken line) :
    IsUnbroken line' := by
  constructor
  · intro member
    rcases exists_of_mem_left same.flip member with ⟨character, listed, _, carriage⟩
    exact unbroken.1 (carriage.2 rfl ▸ listed)
  · intro member
    rcases exists_of_mem_left same.flip member with ⟨character, listed, alike, _⟩
    exact unbroken.2 (alike.eq_feed_iff.2 rfl ▸ listed)

theorem exists_split {rest : List Char} (same : RespelledInLines (line ++ rest) text') :
    ∃ line' rest', text' = line' ++ rest' ∧ RespelledInLines line line' ∧
      RespelledInLines rest rest' :=
  exists_split_of_append same

/-- What follows a line end stands behind the same line end in the other text. -/
theorem cons_break {feed : Char} (isBreak : feed = '\r' ∨ feed = '\n') {rest : List Char}
    (same : RespelledInLines (feed :: rest) text') :
    ∃ rest', text' = feed :: rest' ∧ RespelledInLines rest rest' := by
  cases same with
  | @cons _ feed' _ rest' related later =>
      rcases isBreak with rfl | rfl
      · exact ⟨rest', by rw [related.2.1 rfl], later⟩
      · exact ⟨rest', by rw [related.1.eq_feed_iff.1 rfl], later⟩

theorem head?_eq_feed_iff (same : RespelledInLines text text') :
    text.head? = some '\n' ↔ text'.head? = some '\n' := by
  cases same with
  | nil => exact Iff.rfl
  | cons related _ =>
      rw [List.head?_cons, List.head?_cons, Option.some_inj, Option.some_inj]
      exact related.1.eq_feed_iff

end RespelledInLines

/-- Another spelling has as many lines, each of them in another spelling. -/
theorem BreaksInto.exists_respelled (breaks : BreaksInto text lines)
    (same : RespelledInLines text text') :
    ∃ lines', BreaksInto text' lines' ∧ List.Forall₂ Respelled lines lines' := by
  induction breaks generalizing text' with
  | last unbroken =>
      exact ⟨[text'], .last (same.isUnbroken unbroken), .cons same.respelled .nil⟩
  | pair unbroken _ ih =>
      rcases same.exists_split with ⟨line', after, rfl, sameLine, sameAfter⟩
      rcases sameAfter.cons_break (.inl rfl) with ⟨behind', rfl, sameBehind⟩
      rcases sameBehind.cons_break (.inr rfl) with ⟨rest', rfl, sameRest⟩
      rcases ih sameRest with ⟨lines', later, sameLines⟩
      exact ⟨line' :: lines', .pair (sameLine.isUnbroken unbroken) later,
        .cons sameLine.respelled sameLines⟩
  | carriageReturn unbroken alone _ ih =>
      rcases same.exists_split with ⟨line', after, rfl, sameLine, sameAfter⟩
      rcases sameAfter.cons_break (.inl rfl) with ⟨rest', rfl, sameRest⟩
      rcases ih sameRest with ⟨lines', later, sameLines⟩
      have alone' := mt sameRest.head?_eq_feed_iff.2 alone
      exact ⟨line' :: lines', .carriageReturn (sameLine.isUnbroken unbroken) alone' later,
        .cons sameLine.respelled sameLines⟩
  | lineFeed unbroken _ ih =>
      rcases same.exists_split with ⟨line', after, rfl, sameLine, sameAfter⟩
      rcases sameAfter.cons_break (.inr rfl) with ⟨rest', rfl, sameRest⟩
      rcases ih sameRest with ⟨lines', later, sameLines⟩
      exact ⟨line' :: lines', .lineFeed (sameLine.isUnbroken unbroken) later,
        .cons sameLine.respelled sameLines⟩

/-- The scanned lines of another spelling are other spellings of the scanned lines. -/
theorem respelled_lines (same : RespelledInLines text text') :
    List.Forall₂ Respelled (Text.lines (universalBreaks text))
      (Text.lines (universalBreaks text')) := by
  rcases (breaksInto_iff.2 rfl).exists_respelled same with ⟨lines', breaks, sameLines⟩
  rwa [← breaks.eq_lines]

end Text

namespace RuleTable

/-- Spelling does not matter to any rule of the table. -/
def IgnoresSpelling (table : RuleTable) : Prop :=
  ∀ rule ∈ table.rules, rule.pattern.ignoresSpelling = true

variable {table : RuleTable} {line line' : Line}

theorem IgnoresSpelling.adjust (ignores : table.IgnoresSpelling) (adjustment : TableAdjustment) :
    (table.adjust adjustment).IgnoresSpelling :=
  @forall_mem_adjust _ (fun _ pattern => pattern.ignoresSpelling = true) ignores adjustment

theorem IgnoresSpelling.isMatch_eq (ignores : table.IgnoresSpelling)
    (respelled : Respelled line line') :
    ∀ rule ∈ table.rules, rule.isMatch line = rule.isMatch line' :=
  fun rule member => Pattern.isMatch_respelled (ignores rule member) respelled

end RuleTable

theorem RuleSet.Reads.phrasesIgnoreSpelling {limit : Option Nat} {policy : Policy}
    {rules : RuleSet} (reads : rules.Reads limit policy)
    (builtin : policy.rules.extraForbiddenPhrases = []) :
    rules.forbiddenPhrases.IgnoresSpelling :=
  (reads.builtinPhrases builtin).forall_pattern
    (List.all_eq_true.1 Builtin.phrases_ignoreSpelling)

/-- A file has the same forbidden phrases in another spelling. -/
theorem Check.findings_protocolZero_respelled {auditor : Auditor}
    (ignores : auditor.rules.forbiddenPhrases.IgnoresSpelling) (path : String)
    {lines lines' : List Line} (respelled : List.Forall₂ Respelled lines lines') :
    Check.protocolZero.findings auditor path lines =
      Check.protocolZero.findings auditor path lines' := by
  apply findings_congr respelled
  · intro isDebug
    cases isDebug
  · intro line line' same number insideDebug
    simp only [lineFindings, considers, reports,
      RuleTable.firing_congr (ignores.isMatch_eq same)]

namespace CommitMessage

variable {rules : RuleSet} {message message' : String}

/-- The finding names a forbidden phrase. -/
def isPhraseFinding (found : Finding) : Bool :=
  "Contains forbidden attribution phrase: ".toList.isPrefixOf found.detail.toList

theorem filter_isPhraseFinding (notBlank : Text.trim message.toList ≠ []) :
    (findings rules message).filter isPhraseFinding = phraseFindings rules (subject message) := by
  have length : (lengthFindings rules (subject message)).filter isPhraseFinding = [] := by
    unfold lengthFindings
    split
    · simp [isPhraseFinding, finding]
    · rfl
  have format : (formatFindings rules (subject message)).filter isPhraseFinding = [] := by
    unfold formatFindings
    split
    · rfl
    · simp [isPhraseFinding, finding]
  have period : (periodFindings (subject message)).filter isPhraseFinding = [] := by
    unfold periodFindings
    split
    · simp [isPhraseFinding, finding]
    · rfl
  have phrase : (phraseFindings rules (subject message)).filter isPhraseFinding =
      phraseFindings rules (subject message) := by
    rw [phraseFindings_eq, List.filter_eq_self]
    intro found member
    rcases List.mem_map.1 member with ⟨rule, _, rfl⟩
    simp [isPhraseFinding, finding]
  rw [findings_of_not_blank notBlank, List.filter_append, List.filter_append, List.filter_append,
    length, format, period, phrase]
  rfl

theorem phraseFindings_respelled (ignores : rules.forbiddenPhrases.IgnoresSpelling)
    {line line' : Line} (respelled : Respelled line line') :
    phraseFindings rules line = phraseFindings rules line' := by
  rw [phraseFindings, phraseFindings, RuleTable.firstMatch?, RuleTable.firstMatch?,
    List.find?_congr (ignores.isMatch_eq respelled)]

theorem subject_eq_nil_iff : subject message = [] ↔ Text.trim message.toList = [] := by
  constructor
  · intro empty
    exact not_not.1 fun notBlank => subject_ne_nil notBlank empty
  · intro blank
    rw [subject, blank, List.takeWhile_nil]

/-- A message names the same forbidden phrase when its first line is spelled in another way. -/
theorem filter_isPhraseFinding_respelled (ignores : rules.forbiddenPhrases.IgnoresSpelling)
    (respelled : Respelled (subject message) (subject message')) :
    (findings rules message).filter isPhraseFinding =
      (findings rules message').filter isPhraseFinding := by
  have empty : subject message = [] ↔ subject message' = [] := by
    rw [← List.length_eq_zero_iff, ← List.length_eq_zero_iff, respelled.length_eq]
  rw [subject_eq_nil_iff, subject_eq_nil_iff] at empty
  by_cases blank : Text.trim message.toList = []
  · rw [findings_of_blank blank, findings_of_blank (empty.1 blank)]
  · rw [filter_isPhraseFinding blank, filter_isPhraseFinding (mt empty.2 blank),
      phraseFindings_respelled ignores respelled]

end CommitMessage

namespace Auditor

/--
With the built-in phrases, whatever the match mode is: the same rules match a line in another
spelling and the same ones are reported, so a file has the same forbidden phrases in another
spelling that leaves its line ends alone, and a message names the same one if its first line is
spelled in another way.
-/
theorem phrases_respelled {limit : Option Nat} {policy : Policy} {built : Auditor}
    (read : ofPolicy policy limit = .ok built)
    (builtin : policy.rules.extraForbiddenPhrases = []) (adjustments : Adjustments) :
    let auditor := built.adjust adjustments
    let phrases := auditor.rules.forbiddenPhrases
    (∀ line line', Respelled line line' →
      phrases.rules.filter (·.isMatch line) = phrases.rules.filter (·.isMatch line') ∧
        phrases.firing line = phrases.firing line') ∧
    (∀ path lines lines', List.Forall₂ Respelled lines lines' →
      Check.protocolZero.findings auditor path lines =
        Check.protocolZero.findings auditor path lines') ∧
    (∀ path text text', Text.RespelledInLines text text' →
      Check.protocolZero.findings auditor path (Text.lines (Text.universalBreaks text)) =
        Check.protocolZero.findings auditor path (Text.lines (Text.universalBreaks text'))) ∧
    ∀ message message',
      Respelled (CommitMessage.subject message) (CommitMessage.subject message') →
        CommitMessage.phraseFindings auditor.rules (CommitMessage.subject message) =
            CommitMessage.phraseFindings auditor.rules (CommitMessage.subject message') ∧
          (CommitMessage.findings auditor.rules message).filter CommitMessage.isPhraseFinding =
            (CommitMessage.findings auditor.rules message').filter
              CommitMessage.isPhraseFinding := by
  intro auditor phrases
  have ignores : phrases.IgnoresSpelling :=
    ((ofPolicy_eq_ok_iff.1 read).1.phrasesIgnoreSpelling builtin).adjust _
  refine ⟨?_, ?_, ?_, ?_⟩
  · intro line line' respelled
    have same := ignores.isMatch_eq respelled
    exact ⟨List.filter_congr same, RuleTable.firing_congr same⟩
  · intro path lines lines' respelled
    exact Check.findings_protocolZero_respelled ignores path respelled
  · intro path text text' respelled
    exact Check.findings_protocolZero_respelled ignores path (Text.respelled_lines respelled)
  · intro message message' respelled
    exact ⟨CommitMessage.phraseFindings_respelled ignores respelled,
      CommitMessage.filter_isPhraseFinding_respelled ignores respelled⟩

/-- A long s and an ideographic space are as good as others. -/
theorem phrases_respelled_wide :
    ∃ auditor, ofPolicy {} = .ok auditor ∧
      (let text := "Notes\r\nA\u017f\u3000AN\tAi agent\n".toList
        let text' := "notes\r\nas an\u2003ai agent\n".toList
        Text.RespelledInLines text text' ∧
          Check.protocolZero.findings (auditor.adjust {}) "notes.md"
              (Text.lines (Text.universalBreaks text)) =
            Check.protocolZero.findings (auditor.adjust {}) "notes.md"
              (Text.lines (Text.universalBreaks text'))) ∧
      (let line := CommitMessage.subject " fix(app): CREATED\u00a0by\u2009ai"
        let line' := CommitMessage.subject "fix(app): created by AI\n\nbody"
        Respelled line line' ∧
          CommitMessage.phraseFindings (auditor.adjust {}).rules line =
            CommitMessage.phraseFindings (auditor.adjust {}).rules line') := by
  rcases exists_ofPolicy_builtin with ⟨auditor, read⟩
  rcases phrases_respelled read rfl {} with ⟨_, _, inFiles, inMessages⟩
  refine ⟨auditor, read, ?_, ?_⟩
  · intro text text'
    have respelled : Text.RespelledInLines text text' := by decide +kernel
    exact ⟨respelled, inFiles _ _ _ respelled⟩
  · intro line line'
    have respelled : Respelled line line' := by decide +kernel
    exact ⟨respelled, (inMessages _ _ respelled).1⟩

end Auditor

end Precommit
