import Precommit.Proofs.Outcome
import Precommit.Proofs.Text.Utf8
import Precommit.Rule.Set

/-!
# Tables of a policy

What a rule set holds if a policy could be read: every table has its texts in order,
each with the pattern that the text stands for, and every rule carries the label of
its table. So the texts determine the rules (`RuleSet.Reads.eq_assembled`), which can then
be evaluated without asking whether a limit is kept.
-/

namespace Precommit

variable {limit : Option Nat}

namespace Pattern

/-- The pattern that a text stands for, read from the bytes of the text. -/
def ofText? (caseless : Bool) (text : String) : Option Pattern :=
  parse? { caseless := caseless } ((Utf8.decode? text.toByteArray.data.toList).getD [])

theorem ofText?_of_compile? {caseless : Bool} {text : String} {pattern : Pattern}
    (compiled : compile? limit { caseless := caseless } text.toList = some pattern) :
    ofText? caseless text = some pattern := by
  rw [ofText?, ← Utf8.toList_eq_decode, parse?_of_compile? compiled]

end Pattern

namespace Rule

variable {table source : String} {caseless : Bool}

theorem readPattern_eq_ok_iff {pattern : Pattern} :
    readPattern limit table caseless source = .ok pattern ↔
      Pattern.compile? limit { caseless := caseless } source.toList = some pattern := by
  unfold readPattern
  cases Pattern.compile? limit { caseless := caseless } source.toList <;> simp

theorem ofText_eq_ok_iff {text : RuleText} {rule : Rule} :
    ofText limit table caseless text = .ok rule ↔
      rule.toRuleText = text ∧
        Pattern.compile? limit { caseless := caseless } text.source.toList =
          some rule.pattern := by
  simp only [ofText, bind_eq_ok_iff, pure_eq_ok_iff, readPattern_eq_ok_iff]
  constructor
  · rintro ⟨pattern, compiled, rfl⟩
    exact ⟨rfl, compiled⟩
  · rintro ⟨rfl, compiled⟩
    exact ⟨rule.pattern, compiled, rfl⟩

end Rule

namespace RuleTable

/-- The rules of the table are those of the texts, read with or without regard to case. -/
def Lists (table : RuleTable) (limit : Option Nat) (caseless : Bool) (texts : List RuleText) :
    Prop :=
  List.Forall₂
    (fun text rule => rule.toRuleText = text ∧
      Pattern.compile? limit { caseless := caseless } text.source.toList = some rule.pattern)
    texts table.rules

theorem ofTexts_eq_ok_iff {table : String} {mode : MatchMode} {caseless : Bool}
    {texts : List RuleText} {rules : RuleTable} :
    ofTexts limit table mode caseless texts = .ok rules ↔
      rules.mode = mode ∧ rules.Lists limit caseless texts := by
  simp only [ofTexts, bind_eq_ok_iff, pure_eq_ok_iff, mapM_eq_ok_iff, Rule.ofText_eq_ok_iff]
  constructor
  · rintro ⟨read, lists, rfl⟩
    exact ⟨rfl, lists⟩
  · rintro ⟨rfl, lists⟩
    exact ⟨rules.rules, lists, rfl⟩

theorem Lists.unlimited {table : RuleTable} {caseless : Bool} {texts : List RuleText}
    (lists : table.Lists limit caseless texts) : table.Lists none caseless texts :=
  List.Forall₂.imp (fun _ _ read => ⟨read.1, Pattern.compile?_none_of_compile? read.2⟩) lists

theorem Lists.exists_text {table : RuleTable} {caseless : Bool} {texts : List RuleText}
    (lists : table.Lists limit caseless texts) {rule : Rule} (member : rule ∈ table.rules) :
    rule.toRuleText ∈ texts := by
  rcases exists_of_mem_left lists.flip member with ⟨text, listed, holds, _⟩
  rw [holds]
  exact listed

/-- What the texts stand for is what the rules of the table look for. -/
theorem Lists.forall_pattern {table : RuleTable} {caseless : Bool} {texts : List RuleText}
    {holds : Pattern → Bool} (lists : table.Lists limit caseless texts)
    (each : ∀ text ∈ texts,
      (Pattern.parse? { caseless := caseless } text.source.toList).any holds = true) :
    ∀ rule ∈ table.rules, holds rule.pattern = true := by
  intro rule member
  rcases exists_of_mem_left lists.flip member with ⟨text, listed, _, compiled⟩
  have parsed := each text listed
  rwa [Pattern.parse?_of_compile? compiled, Option.any_some] at parsed

/-- The rules of a table are its texts with the patterns that these stand for. -/
theorem Lists.rules_eq {table : RuleTable} {caseless : Bool} {texts : List RuleText}
    (lists : table.Lists limit caseless texts) {patterns : List Pattern}
    (parsed : texts.map (fun text => Pattern.parse? { caseless := caseless } text.source.toList) =
      patterns.map some) :
    table.rules = List.zipWith Rule.mk texts patterns := by
  unfold Lists at lists
  generalize table.rules = rules at lists
  induction lists generalizing patterns with
  | nil => rfl
  | cons read _ ih =>
      cases patterns with
      | nil => cases parsed
      | cons pattern patterns =>
          rw [List.map_cons, List.map_cons, List.cons.injEq, Pattern.parse?_of_compile? read.2,
            Option.some.injEq] at parsed
          rw [List.zipWith_cons_cons, ← ih parsed.2, ← parsed.1, ← read.1]

/-- The rules that apply to a line are those of the texts whose patterns match it. -/
theorem Lists.map_filter_rules {table : RuleTable} {caseless : Bool} {texts : List RuleText}
    (lists : table.Lists limit caseless texts) (line : Line) :
    (table.rules.filter (·.isMatch line)).map Rule.toRuleText =
      texts.filter fun text =>
        (Pattern.parse? { caseless := caseless } text.source.toList).any (·.isMatch line) := by
  unfold Lists at lists
  generalize table.rules = rules at lists
  induction lists with
  | nil => rfl
  | cons read _ ih =>
      rw [List.filter_cons, List.filter_cons, Pattern.parse?_of_compile? read.2, Option.any_some,
        ← ih, ← read.1, Rule.isMatch]
      split <;> rfl

/-- The table of the texts that are patterns. -/
def assembled (mode : MatchMode) (caseless : Bool) (texts : List RuleText) : RuleTable where
  mode := mode
  rules := texts.filterMap fun text =>
    (Pattern.ofText? caseless text.source).map fun pattern => { text with pattern := pattern }

theorem Lists.eq_assembled {table : RuleTable} {mode : MatchMode} {caseless : Bool}
    {texts : List RuleText} (isMode : table.mode = mode)
    (lists : table.Lists limit caseless texts) : table = assembled mode caseless texts := by
  rw [assembled, filterMap_eq_of_forall₂ (lists.imp ?_), ← isMode]
  rintro text rule ⟨rfl, compiled⟩
  rw [Pattern.ofText?_of_compile? compiled]
  rfl

/-- All rules of the table have a label of the given kind. -/
def AllLabelled (table : RuleTable) (isLabel : Label → Prop) : Prop :=
  ∀ rule ∈ table.rules, isLabel rule.label

theorem Lists.allLabelled {table : RuleTable} {caseless : Bool} {texts : List RuleText}
    {isLabel : Label → Prop} (lists : table.Lists limit caseless texts)
    (labels : ∀ text ∈ texts, isLabel text.label) : table.AllLabelled isLabel :=
  fun _ member => labels _ (lists.exists_text member)

/-- An adjustment leaves the labels and the patterns of the rules as they are. -/
theorem forall_mem_adjust {table : RuleTable} {holds : Label → Pattern → Prop}
    (each : ∀ rule ∈ table.rules, holds rule.label rule.pattern) (adjustment : TableAdjustment) :
    ∀ rule ∈ (table.adjust adjustment).rules, holds rule.label rule.pattern := by
  intro rule member
  obtain ⟨original, listed, rfl⟩ := List.mem_map.1 member
  exact each original listed

theorem AllLabelled.adjust {table : RuleTable} {isLabel : Label → Prop}
    (labelled : table.AllLabelled isLabel) (adjustment : TableAdjustment) :
    (table.adjust adjustment).AllLabelled isLabel :=
  @forall_mem_adjust _ (fun label _ => isLabel label) labelled adjustment

end RuleTable

namespace RuleSet

/-- What the parts of a rule set are if they are read from a policy. -/
structure Reads (rules : RuleSet) (limit : Option Nat) (policy : Policy) : Prop where
  phraseMode : rules.forbiddenPhrases.mode = .first
  phrases : rules.forbiddenPhrases.Lists limit true (phraseTexts policy)
  callMode : rules.debugCalls.mode = .first
  calls : rules.debugCalls.Lists limit false Builtin.debugCalls
  apiMode : rules.bannedApis.mode = .every
  apis : rules.bannedApis.Lists limit false Builtin.bannedApis
  secretMode : rules.secrets.mode = .first
  secrets : rules.secrets.Lists limit false Builtin.secrets
  unwrapCandidate :
    Pattern.compile? limit {} Builtin.unwrapCandidate.toList = some rules.unwrapCandidate
  unwrapFalsePositive :
    Pattern.compile? limit {} Builtin.unwrapFalsePositive.toList = some rules.unwrapFalsePositive
  secretFalsePositive :
    Pattern.compile? limit {} Builtin.secretFalsePositive.toList = some rules.secretFalsePositive
  commitSubject :
    Pattern.compile? limit {} policy.commit.subjectText.toList = some rules.commitSubject
  maxSubjectLength : rules.maxSubjectLength = policy.commit.maxSubjectLength

theorem ofPolicy_eq_ok_iff {policy : Policy} {rules : RuleSet} :
    ofPolicy policy limit = .ok rules ↔ rules.Reads limit policy := by
  simp only [ofPolicy, bind_eq_ok_iff, pure_eq_ok_iff, RuleTable.ofTexts_eq_ok_iff,
    Rule.readPattern_eq_ok_iff]
  constructor
  · rintro ⟨_, ⟨phraseMode, phrases⟩, _, ⟨callMode, calls⟩, _, ⟨apiMode, apis⟩, _,
      ⟨secretMode, secrets⟩, _, candidate, _, falsePositive, _, secretFalsePositive, _, subject,
      rfl⟩
    exact ⟨phraseMode, phrases, callMode, calls, apiMode, apis, secretMode, secrets, candidate,
      falsePositive, secretFalsePositive, subject, rfl⟩
  · rintro reads
    exact ⟨_, ⟨reads.phraseMode, reads.phrases⟩, _, ⟨reads.callMode, reads.calls⟩, _,
      ⟨reads.apiMode, reads.apis⟩, _, ⟨reads.secretMode, reads.secrets⟩, _,
      reads.unwrapCandidate, _, reads.unwrapFalsePositive, _, reads.secretFalsePositive, _,
      reads.commitSubject, by rw [← reads.maxSubjectLength]⟩

/-- The rules do not depend on which files are scanned. -/
theorem Reads.withScan {rules : RuleSet} {policy : Policy} (reads : rules.Reads limit policy)
    (scan : ScanPolicy) : rules.Reads limit { policy with scan := scan } := by
  have read := ofPolicy_eq_ok_iff.2 reads
  exact ofPolicy_eq_ok_iff.1 read

/-- A limit decides whether the rules can be read, and not what they are. -/
theorem Reads.unlimited {rules : RuleSet} {policy : Policy} (reads : rules.Reads limit policy) :
    rules.Reads none policy where
  phraseMode := reads.phraseMode
  phrases := reads.phrases.unlimited
  callMode := reads.callMode
  calls := reads.calls.unlimited
  apiMode := reads.apiMode
  apis := reads.apis.unlimited
  secretMode := reads.secretMode
  secrets := reads.secrets.unlimited
  unwrapCandidate := Pattern.compile?_none_of_compile? reads.unwrapCandidate
  unwrapFalsePositive := Pattern.compile?_none_of_compile? reads.unwrapFalsePositive
  secretFalsePositive := Pattern.compile?_none_of_compile? reads.secretFalsePositive
  commitSubject := Pattern.compile?_none_of_compile? reads.commitSubject
  maxSubjectLength := reads.maxSubjectLength

/-- There is one rule set at most that can be read from a policy. -/
theorem Reads.unique {rules rules' : RuleSet} {policy : Policy} (reads : rules.Reads limit policy)
    (reads' : rules'.Reads limit policy) : rules = rules' := by
  have read := ofPolicy_eq_ok_iff.2 reads
  rw [ofPolicy_eq_ok_iff.2 reads'] at read
  exact (Except.ok.inj read).symm

/-- The rules of the texts of a policy, provided that they are patterns. -/
def assembled (policy : Policy) : RuleSet where
  forbiddenPhrases := .assembled .first true (phraseTexts policy)
  unwrapCandidate := (Pattern.ofText? false Builtin.unwrapCandidate).getD .empty
  unwrapFalsePositive := (Pattern.ofText? false Builtin.unwrapFalsePositive).getD .empty
  debugCalls := .assembled .first false Builtin.debugCalls
  bannedApis := .assembled .every false Builtin.bannedApis
  secrets := .assembled .first false Builtin.secrets
  secretFalsePositive := (Pattern.ofText? false Builtin.secretFalsePositive).getD .empty
  commitSubject := (Pattern.ofText? false policy.commit.subjectText).getD .empty
  maxSubjectLength := policy.commit.maxSubjectLength

theorem Reads.eq_assembled {rules : RuleSet} {policy : Policy} (reads : rules.Reads limit policy) :
    rules = assembled policy := by
  have single {text : String} {pattern : Pattern}
      (compiled : Pattern.compile? limit {} text.toList = some pattern) :
      (Pattern.ofText? false text).getD .empty = pattern := by
    rw [Pattern.ofText?_of_compile? compiled, Option.getD_some]
  rw [assembled, ← reads.phrases.eq_assembled reads.phraseMode,
    ← reads.calls.eq_assembled reads.callMode, ← reads.apis.eq_assembled reads.apiMode,
    ← reads.secrets.eq_assembled reads.secretMode, single reads.unwrapCandidate,
    single reads.unwrapFalsePositive, single reads.secretFalsePositive,
    single reads.commitSubject, ← reads.maxSubjectLength]

/-- Policies with the same phrases and subject lengths differ in the subject pattern only. -/
theorem Reads.eq_withSubject {rules rules' : RuleSet} {policy other : Policy}
    (reads : rules.Reads limit policy) (reads' : rules'.Reads limit other)
    (phrases : other.rules = policy.rules)
    (length : other.commit.maxSubjectLength = policy.commit.maxSubjectLength) :
    rules' = { rules with commitSubject := rules'.commitSubject } := by
  have texts : phraseTexts other = phraseTexts policy := by
    rw [phraseTexts, phraseTexts, phrases]
  have swapped : RuleSet.Reads { rules with commitSubject := rules'.commitSubject } limit other :=
    { reads with
      phrases := by
        rw [texts]
        exact reads.phrases
      commitSubject := reads'.commitSubject
      maxSubjectLength := reads.maxSubjectLength.trans length.symm }
  exact reads'.unique swapped

/-- Every rule has the label of the check that its table is for. -/
structure Labelled (rules : RuleSet) : Prop where
  phrases : rules.forbiddenPhrases.AllLabelled (· = .protocolZero)
  calls : rules.debugCalls.AllLabelled (· = .debugArtifact)
  apis : rules.bannedApis.AllLabelled fun label =>
    label = .deprecatedApi ∨ label = .combineUsage
  secrets : rules.secrets.AllLabelled (· = .secretLeakage)

/-- Without phrases of its own, a policy has the built-in ones. -/
theorem Reads.builtinPhrases {rules : RuleSet} {policy : Policy} (reads : rules.Reads limit policy)
    (builtin : policy.rules.extraForbiddenPhrases = []) :
    rules.forbiddenPhrases.Lists limit true Builtin.forbiddenPhrases := by
  have phrases := reads.phrases
  rwa [phraseTexts, builtin, List.map_nil, List.append_nil] at phrases

theorem label_of_mem_phraseTexts {policy : Policy} {text : RuleText}
    (member : text ∈ phraseTexts policy) : text.label = .protocolZero := by
  simp only [phraseTexts, Builtin.forbiddenPhrases, List.mem_append, List.mem_map] at member
  rcases member with ⟨_, _, rfl⟩ | ⟨_, _, rfl⟩ <;> rfl

theorem Reads.labelled {rules : RuleSet} {policy : Policy} (reads : rules.Reads limit policy) :
    rules.Labelled where
  phrases := reads.phrases.allLabelled fun _ => label_of_mem_phraseTexts
  calls := reads.calls.allLabelled (by decide)
  apis := reads.apis.allLabelled (by decide)
  secrets := reads.secrets.allLabelled (by decide)

theorem Labelled.adjust {rules : RuleSet} (labelled : rules.Labelled)
    (adjustments : Adjustments) : (rules.adjust adjustments).Labelled where
  phrases := labelled.phrases.adjust _
  calls := labelled.calls.adjust _
  apis := labelled.apis.adjust _
  secrets := labelled.secrets.adjust _

end RuleSet

end Precommit
