import Precommit.Proofs.Audit.Growth
import Precommit.Proofs.Audit.Provenance

/-!
# Further forbidden phrases

The phrases that a policy adds come after all others in a table that reports the first match
only, and the subject of a commit message is reported for the first match as well. So phrases
that are added at the end speak up where nothing was reported before, and everything that was
reported stays (`audit_further_phrases`).
-/

namespace Precommit

/-- The policy with further forbidden phrases after its own. -/
def Policy.withPhrases (policy : Policy) (phrases : List String) : Policy :=
  { policy with
    rules :=
      { policy.rules with
        extraForbiddenPhrases := policy.rules.extraForbiddenPhrases ++ phrases } }

theorem RuleSet.phraseTexts_withPhrases (policy : Policy) (phrases : List String) :
    phraseTexts (policy.withPhrases phrases) =
      phraseTexts policy ++ phrases.map .forbiddenPhrase := by
  simp [phraseTexts, Policy.withPhrases, List.append_assoc]

namespace RuleTable

/-- The table with further rules after its own. -/
def extend (table : RuleTable) (rules : List Rule) : RuleTable :=
  { table with rules := table.rules ++ rules }

variable {table : RuleTable}

theorem firstMatch?_extend (rules : List Rule) (line : Line) :
    (table.extend rules).firstMatch? line =
      (table.firstMatch? line).or (rules.find? (·.isMatch line)) :=
  List.find?_append

theorem firstMatch?_eq_none_iff {line : Line} :
    table.firstMatch? line = none ↔ ∀ rule ∈ table.rules, ¬rule.pattern.Matches line := by
  simp only [firstMatch?, List.find?_eq_none, Rule.isMatch_iff]

/-- Whatever is reported of the first match, further rules report only where nothing was. -/
theorem inserts_map_firstMatch? {Report : Type} {isNew : Report → Prop} {rules : List Rule}
    {line : Line} (report : Rule → Report)
    (fresh : ∀ rule ∈ rules, rule.pattern.Matches line →
      (∀ earlier ∈ table.rules, ¬earlier.pattern.Matches line) → isNew (report rule)) :
    Inserts isNew ((table.firstMatch? line).toList.map report)
      (((table.extend rules).firstMatch? line).toList.map report) := by
  rw [firstMatch?_extend]
  cases found : table.firstMatch? line with
  | some rule => exact .refl _
  | none =>
      rw [Option.none_or]
      apply Inserts.of_forall
      intro reported member
      rcases List.mem_map.1 member with ⟨rule, first, rfl⟩
      rw [Option.mem_toList] at first
      have matched : rule.isMatch line = true := by simpa using List.find?_some first
      exact fresh rule (List.mem_of_find?_eq_some first) ((rule.isMatch_iff line).1 matched)
        (firstMatch?_eq_none_iff.1 found)

end RuleTable

/-- The rules are those that the phrases stand for. -/
def RulesFor (limit : Option Nat) (phrases : List String) (rules : List Rule) : Prop :=
  List.Forall₂
    (fun text rule => rule.toRuleText = text ∧
      Pattern.compile? limit { caseless := true } text.source.toList = some rule.pattern)
    (phrases.map .forbiddenPhrase) rules

variable {limit : Option Nat} {phrases : List String} {rules : List Rule}

theorem exists_rulesFor
    (valid : ∀ phrase ∈ phrases, ∃ pattern,
      Pattern.compile? limit { caseless := true } phrase.toList = some pattern) :
    ∃ rules, RulesFor limit phrases rules := by
  apply exists_forall₂
  intro text member
  rcases List.mem_map.1 member with ⟨phrase, listed, rfl⟩
  rcases valid phrase listed with ⟨pattern, compiled⟩
  exact ⟨⟨.forbiddenPhrase phrase, pattern⟩, rfl, compiled⟩

/-- The line falls under one of the further phrases and under none of the earlier rules. -/
structure RuleSet.AddsPhrase (rules : RuleSet) (phrases : List String) (line : Line)
    (phrase : String) : Prop where
  appended : phrase ∈ phrases
  applies : ∃ pattern, Pattern.parse? { caseless := true } phrase.toList = some pattern ∧
    pattern.Matches line
  alone : ∀ rule ∈ rules.forbiddenPhrases.rules, ¬rule.pattern.Matches line

theorem RulesFor.exists_addsPhrase (added : RulesFor limit phrases rules) {earlier : RuleSet}
    {rule : Rule} (member : rule ∈ rules) {line : Line} (applies : rule.pattern.Matches line)
    (alone : ∀ rule ∈ earlier.forbiddenPhrases.rules, ¬rule.pattern.Matches line) :
    ∃ phrase, rule.toRuleText = .forbiddenPhrase phrase ∧
      earlier.AddsPhrase phrases line phrase := by
  rcases exists_of_mem_left added.flip member with ⟨text, listed, is_text, compiled⟩
  rcases List.mem_map.1 listed with ⟨phrase, appended, rfl⟩
  exact ⟨phrase, is_text, appended, ⟨_, Pattern.parse?_of_compile? compiled, applies⟩, alone⟩

namespace Auditor

/-- What an audit finds more with further phrases. -/
inductive FindsFurther (auditor : Auditor) (phrases : List String)
    (read? : String → Option Bytes) (paths : List String) (message : Option String) :
    Finding → Prop
  | file {path phrase : String} {content : Bytes} {before after : List Line} {line : Line}
      (listed : path ∈ paths)
      (scannable : auditor.classifier.isScannable path = true)
      (found : read? path = some content)
      (judged : auditor.classifier.isGovernanceFile path = false)
      (split : Text.lines (Text.universalBreaks (Utf8.decodeLossy content)) =
        before ++ line :: after)
      (adds : auditor.rules.AddsPhrase phrases line phrase) :
      FindsFurther auditor phrases read? paths message
        { label := .protocolZero, file := path, line := before.length + 1,
          detail := "Forbidden phrase matched: " ++ phrase }
  | subject {text phrase : String}
      (asked : message = some text)
      (adds : auditor.rules.AddsPhrase phrases (CommitMessage.subject text) phrase) :
      FindsFurther auditor phrases read? paths message
        (CommitMessage.finding ("Contains forbidden attribution phrase: " ++ phrase))

/-- The auditor with further rules for forbidden phrases. -/
def withPhraseRules (auditor : Auditor) (rules : List Rule) : Auditor :=
  { auditor with
    rules :=
      { auditor.rules with forbiddenPhrases := auditor.rules.forbiddenPhrases.extend rules } }

variable {auditor : Auditor} {policy : Policy} {read? : String → Option Bytes}
  {paths : List String} {message : Option String}

theorem ofPolicy_withPhrases (read : ofPolicy policy limit = .ok auditor)
    (added : RulesFor limit phrases rules) :
    ofPolicy (policy.withPhrases phrases) limit = .ok (auditor.withPhraseRules rules) := by
  rcases ofPolicy_eq_ok_iff.1 read with ⟨reads, classified, length⟩
  refine ofPolicy_eq_ok_iff.2 ⟨?_, classified, length⟩
  exact
    { reads with
      phrases := by
        rw [RuleSet.phraseTexts_withPhrases]
        exact List.rel_append reads.phrases added }

/-- Only the check for forbidden phrases asks for them. -/
theorem findings_withPhraseRules {check : Check} (other : check ≠ .protocolZero) (path : String)
    (lines : List Line) :
    check.findings (auditor.withPhraseRules rules) path lines =
      check.findings auditor path lines := by
  cases check with
  | protocolZero => exact absurd rfl other
  | _ => rfl

theorem inserts_lineFindings (mode : auditor.rules.forbiddenPhrases.mode = .first)
    {isNew : Finding → Prop} {path : String} {number : Nat} {inside : Bool} {line : Line}
    (fresh : ∀ rule ∈ rules, rule.pattern.Matches line →
      (∀ earlier ∈ auditor.rules.forbiddenPhrases.rules, ¬earlier.pattern.Matches line) →
      isNew { label := rule.label, file := path, line := number,
              detail := rule.message ++ ": " ++ rule.source }) :
    Inserts isNew (Check.protocolZero.lineFindings auditor path number inside line)
      (Check.protocolZero.lineFindings (auditor.withPhraseRules rules) path number inside
        line) := by
  have mode' : (auditor.rules.forbiddenPhrases.extend rules).mode = .first := mode
  have reported (table : RuleTable) (first : table.mode = .first) :
      Check.protocolZero.lineFindings
          { auditor with rules := { auditor.rules with forbiddenPhrases := table } } path number
          inside line =
        (table.firstMatch? line).toList.map fun rule =>
          { label := rule.label, file := path, line := number,
            detail := rule.message ++ ": " ++ rule.source } := by
    rw [← RuleTable.firing_eq_toList first]
    simp only [Check.lineFindings, Check.considers, Check.reports, if_true, List.map_map]
    rfl
  have old := reported _ mode
  have new := reported _ mode'
  rw [withPhraseRules, new]
  exact old ▸ RuleTable.inserts_map_firstMatch? _ fresh

/-- In a file, further phrases add findings on lines that nothing was reported for. -/
theorem inserts_fileFindings_withPhraseRules (read : ofPolicy policy limit = .ok auditor)
    (added : RulesFor limit phrases rules) {path : String} {content : Bytes} (listed : path ∈ paths)
    (scannable : auditor.classifier.isScannable path = true) (found : read? path = some content) :
    Inserts (auditor.FindsFurther phrases read? paths message)
      (auditor.fileFindings path content)
      ((auditor.withPhraseRules rules).fileFindings path content) := by
  apply inserts_fileFindings
  intro check
  by_cases other : check = .protocolZero
  case neg =>
    rw [findings_withPhraseRules other]
    exact .refl _
  subst other
  apply Check.inserts_findings (by rfl)
  intro before line after split judged
  apply inserts_lineFindings (ofPolicy_eq_ok_iff.1 read).1.phraseMode
  intro rule is_added applies alone
  rcases added.exists_addsPhrase is_added applies alone with ⟨phrase, text, adds⟩
  rw [text]
  refine .file listed scannable found ?_ split adds
  simpa [Check.appliesTo] using judged

/-- In a commit message, further phrases add one finding if there was no phrase before. -/
theorem inserts_messageFindings (added : RulesFor limit phrases rules) :
    Inserts (auditor.FindsFurther phrases read? paths message) (auditor.messageFindings message)
        ((auditor.withPhraseRules rules).messageFindings message) ∧
      ((auditor.withPhraseRules rules).messageFindings message).length ≤
        (auditor.messageFindings message).length + 1 := by
  cases message with
  | none => exact ⟨.refl _, Nat.zero_le 1⟩
  | some text =>
      rw [messageFindings, messageFindings]
      by_cases blank : Text.trim text.toList = []
      · rw [CommitMessage.findings_of_blank blank, CommitMessage.findings_of_blank blank]
        exact ⟨.refl _, Nat.le_succ _⟩
      · rw [CommitMessage.findings_of_not_blank blank, CommitMessage.findings_of_not_blank blank,
          CommitMessage.phraseFindings_eq, CommitMessage.phraseFindings_eq]
        constructor
        · apply Inserts.append (.refl _)
          apply RuleTable.inserts_map_firstMatch?
          intro rule is_added applies alone
          rcases added.exists_addsPhrase is_added applies alone with ⟨phrase, is_text, adds⟩
          rw [is_text]
          exact .subject rfl adds
        · have single : ((auditor.withPhraseRules rules).rules.forbiddenPhrases.firstMatch?
              (CommitMessage.subject text)).toList.length ≤ 1 := Option.length_toList_le
          have lengths : CommitMessage.lengthFindings (auditor.withPhraseRules rules).rules =
            CommitMessage.lengthFindings auditor.rules := rfl
          have formats : CommitMessage.formatFindings (auditor.withPhraseRules rules).rules =
            CommitMessage.formatFindings auditor.rules := rfl
          simp only [List.length_append, List.length_map, lengths, formats]
          omega

/-- The findings under the label of commit messages are those in the message. -/
theorem countP_commitMessage_audit (labelled : auditor.rules.Labelled) :
    (auditor.audit read? paths message).findings.countP (·.label = .commitMessage) =
      (auditor.messageFindings message).length := by
  have files : (paths.flatMap (auditor.contribution read?)).countP
      (·.label = .commitMessage) = 0 := by
    rw [List.countP_eq_zero]
    intro finding member isCommit
    apply (not_marked_of_mem_contributions labelled member).1
    rw [of_decide_eq_true isCommit]
  have commit : (auditor.messageFindings message).countP (·.label = .commitMessage) =
      (auditor.messageFindings message).length := by
    rw [List.countP_eq_length]
    intro finding member
    exact decide_eq_true (isMarked_of_mem_messageFindings member).1
  rw [audit_eq, List.countP_append, files, commit, Nat.zero_add]

/--
A policy that can be read can be read with further phrases, if these can be. The audit then
scans the same files and keeps all findings in their order. What it finds more are further
phrases, on lines of files that are no policy documents and in the subject of the commit
message, where no earlier rule applies; there is one such finding at most in the message.
-/
theorem audit_further_phrases (read : ofPolicy policy limit = .ok auditor)
    (valid : ∀ phrase ∈ phrases, ∃ pattern,
      Pattern.compile? limit { caseless := true } phrase.toList = some pattern) :
    ∃ auditor', ofPolicy (policy.withPhrases phrases) limit = .ok auditor' ∧
      ∀ (read? : String → Option Bytes) (paths : List String) (message : Option String),
        let old := auditor.audit read? paths message
        let new := auditor'.audit read? paths message
        new.filesScanned = old.filesScanned ∧ old.findings.Sublist new.findings ∧
          Inserts (auditor.FindsFurther phrases read? paths message) old.findings new.findings ∧
          new.findings.countP (·.label = .commitMessage) ≤
            old.findings.countP (·.label = .commitMessage) + 1 := by
  rcases exists_rulesFor valid with ⟨rules, added⟩
  have read' := ofPolicy_withPhrases read added
  refine ⟨auditor.withPhraseRules rules, read', ?_⟩
  intro read? paths message old new
  have labelled := (ofPolicy_eq_ok_iff.1 read).1.labelled
  have labelled' := (ofPolicy_eq_ok_iff.1 read').1.labelled
  have commit := @inserts_messageFindings limit phrases rules auditor read? paths message added
  have scannable (path : String) :
      (auditor.withPhraseRules rules).classifier.isScannable path =
        auditor.classifier.isScannable path := rfl
  have grown := inserts_audit scannable
    (fun path listed content scannable found =>
      inserts_fileFindings_withPhraseRules read added listed scannable found) commit.1
  have counted : old.findings.countP (·.label = .commitMessage) = _ :=
    countP_commitMessage_audit labelled
  have counted' : new.findings.countP (·.label = .commitMessage) = _ :=
    countP_commitMessage_audit labelled'
  rw [counted, counted']
  exact ⟨grown.1, grown.2.sublist, grown.2, commit.2⟩

/-- A further phrase is found on the line and in the subject that had none. -/
theorem audit_further_phrases_builtin :
    ∃ auditor auditor', ofPolicy {} = .ok auditor ∧
      ofPolicy (Policy.withPhrases {} [r"vibe\s+coded"]) = .ok auditor' ∧
      let read? : String → Option Bytes :=
        fun _ => some (Utf8.encode "Vibe coded\nas an AI".toList)
      let audit (auditor : Auditor) := auditor.audit read? ["docs/a.md"] (some "vibe coded")
      let line : Finding :=
        ⟨.protocolZero, "docs/a.md", 1, r"Forbidden phrase matched: vibe\s+coded"⟩
      let known : Finding :=
        ⟨.protocolZero, "docs/a.md", 2, r"Forbidden phrase matched: as\s+an\s+ai"⟩
      let format := CommitMessage.finding
        "Does not match format: type(scope): description — got: vibe coded"
      let subject := CommitMessage.finding r"Contains forbidden attribution phrase: vibe\s+coded"
      (audit auditor).findings = [known, format] ∧
        (audit auditor').findings = [line, known, format, subject] ∧
        (∀ finding ∈ [line, subject],
          auditor.FindsFurther [r"vibe\s+coded"] read? ["docs/a.md"] (some "vibe coded") finding) ∧
        (audit auditor).findings.Sublist (audit auditor').findings ∧
        (audit auditor').filesScanned = (audit auditor).filesScanned := by
  have roomy : Pattern.isRoomyText true r"vibe\s+coded" = true := by decide +kernel
  have valid : ∀ phrase ∈ [r"vibe\s+coded"], ∃ pattern,
      Pattern.compile? (some Pattern.sizeLimit) { caseless := true } phrase.toList =
        some pattern := by
    intro phrase member
    rw [List.mem_singleton.1 member]
    exact Pattern.exists_compile_of_isRoomyText roomy
  rcases exists_ofPolicy_builtin with ⟨auditor, read⟩
  rcases audit_further_phrases read valid with ⟨auditor', read', grows⟩
  obtain rfl := eq_assembled read
  obtain rfl := eq_assembled read'
  refine ⟨_, _, read, read', ?_⟩
  intro read? audit line known format subject
  have old : (audit (assembled {})).findings = [known, format] := by decide +kernel
  have new : (audit (assembled (Policy.withPhrases {} [r"vibe\s+coded"]))).findings =
      [line, known, format, subject] := by
    decide +kernel
  have grown := grows read? ["docs/a.md"] (some "vibe coded")
  refine ⟨old, new, ?_, grown.2.1, grown.1⟩
  have listed : [line, subject] ⊆ [line, known, format, subject] := by decide
  have absent : ∀ finding ∈ [line, subject], finding ∉ [known, format] := by decide
  intro finding further
  apply grown.2.2.1.isNew_of_not_mem
  · exact new ▸ listed further
  · exact old ▸ absent finding further

end Auditor

end Precommit
