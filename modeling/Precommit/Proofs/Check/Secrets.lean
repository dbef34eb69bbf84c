import Precommit.Proofs.Audit.Assembly
import Precommit.Proofs.Check.LineByLine
import Precommit.Proofs.Rule.Firing
import Precommit.Proofs.Unicode.CaseFolding

/-!
# Secrets, piece by piece

Said without patterns, a line has a webhook if it contains an address up to case, a credential
if it can be cut into a name, a separator and a quoted value, and an encoded literal if it has
many characters of an encoding between quotes. Of these the first in this order is reported,
unless the line has a mark of something harmless (`findings_secretLeakage_line`).
-/

namespace Precommit

open Pattern Unicode

namespace Builtin

/-- The marks of a line on which nothing is taken for a secret. -/
def harmlessMarks : List String :=
  ["test_", "mock_", "fake_", "example_", "XOR", "xor", ".xcassets", "bundleIdentifier", "UTType"]

/-- The addresses at which webhooks are posted to. -/
def webhookAddresses : List String :=
  ["https", "http"].flatMap fun scheme =>
    ["://discordapp", "://discord"].map fun host => scheme ++ host ++ ".com/api/webhooks/"

/-- A name of two words, joined by one character or by nothing. -/
def joined (subject kind : String) : List String :=
  ["_", "-", ""].map fun joint => subject ++ joint ++ kind

/-- The names under which credentials are kept. -/
def credentialNames : List String :=
  [joined "api" "key", joined "api" "secret", joined "access" "token", joined "auth" "token",
    ["bearer"], joined "secret" "key", joined "private" "key"].flatten

def quotes : List Char :=
  ['"', '\'']

/-! ### The patterns -/

/-- Letters and digits of ASCII and further characters. -/
def tokenSet (further : List Char) : CharSet :=
  .unions ([.range 'A' 'Z', .range 'a' 'z', .range '0' '9'] ++ further.map .single)

-- Flags that are set at the start of a text leave an empty part there.
def webhookPattern : Pattern :=
  sequenceAll (.empty :: caselessEach "http" ++
    [Pattern.optional (.char (.caseless (.single 's')))] ++ caselessEach "://discord" ++
    [Pattern.optional (sequenceAll (caselessEach "app"))] ++ caselessEach ".com/api/webhooks/")

def joinedPattern (subject kind : String) : Pattern :=
  sequenceAll (caselessEach subject ++
    [Pattern.optional (.char (.caseless (.ofList ['_', '-'])))] ++ caselessEach kind)

def namePattern : Pattern :=
  alternativeAll [joinedPattern "api" "key", joinedPattern "api" "secret",
    joinedPattern "access" "token", joinedPattern "auth" "token",
    sequenceAll (caselessEach "bearer"), joinedPattern "secret" "key",
    joinedPattern "private" "key"]

def credentialPattern : Pattern :=
  sequenceAll [.empty, namePattern, star (.char .blank), .char (.caseless (.ofList [':', '='])),
    star (.char .blank), .char (.caseless (.ofList quotes)),
    counted (.char (.caseless (tokenSet ['+', '/', '=', '_', '-']))) 16 none,
    .char (.caseless (.ofList quotes))]

def literalPattern : Pattern :=
  sequenceAll [.char (.ofList quotes), counted (.char (tokenSet ['+', '/', '='])) 40 none,
    .char (.ofList quotes)]

theorem parse?_secretFalsePositive :
    parse? {} secretFalsePositive.toList =
      some (alternativeAll (harmlessMarks.map fun mark => text mark.toList)) := by
  simp only [Utf8.toList_eq_decode]
  decide +kernel

theorem parse?_secrets :
    secrets.map (fun text => parse? {} text.source.toList) =
      [webhookPattern, credentialPattern, literalPattern].map some := by
  simp only [Utf8.toList_eq_decode]
  decide +kernel

/-! ### Their languages -/

theorem isAlphanum_eq_ranges (character : Char) :
    character.isAlphanum = ((CharSet.range 'A' 'Z').contains character ||
      (CharSet.range 'a' 'z').contains character ||
      (CharSet.range '0' '9').contains character) := by
  have upper : character.isUpper = (CharSet.range 'A' 'Z').contains character :=
    Bool.decide_and _ _
  rw [← upper]
  rfl

theorem contains_tokenSet_iff {further : List Char} {character : Char} :
    (tokenSet further).contains character = true ↔
      character.isAlphanum = true ∨ character ∈ further := by
  rw [isAlphanum_eq_ranges]
  simp only [tokenSet, CharSet.contains_unions_iff, List.mem_append, List.mem_map, or_and_right,
    exists_or, exists_exists_and_eq_and, CharSet.contains_single_iff, exists_eq_right',
    List.exists_mem_cons_iff, List.not_mem_nil, false_and, exists_false, or_false,
    Bool.or_eq_true, or_assoc]

theorem toNat_of_contains_range {first last character : Char}
    (contained : (CharSet.range first last).contains character = true) :
    character.toNat ≤ last.toNat := by
  rw [CharSet.contains, Bool.and_eq_true, decide_eq_true_eq, decide_eq_true_eq] at contained
  exact contained.2

theorem toNat_of_contains_tokenSet {further : List Char} {character : Char}
    (ascii : areAscii further = true)
    (contained : (tokenSet further).contains character = true) : character.toNat < 0x80 := by
  rcases contains_tokenSet_iff.1 contained with letterOrDigit | listed
  · rw [isAlphanum_eq_ranges, Bool.or_eq_true, Bool.or_eq_true] at letterOrDigit
    rcases letterOrDigit with (upper | lower) | digit
    · exact Nat.lt_of_le_of_lt (toNat_of_contains_range upper) (by decide)
    · exact Nat.lt_of_le_of_lt (toNat_of_contains_range lower) (by decide)
    · exact Nat.lt_of_le_of_lt (toNat_of_contains_range digit) (by decide)
  · exact areAscii_iff.1 ascii character listed

-- Each piece has the texts that it agrees with; putting pieces together combines their texts.
theorem describes_webhookPattern : webhookPattern.Describes (upToCase webhookAddresses) := by
  have http := describesEach_caselessEach "http" (by decide)
  have plural := describes_caseless_ofList ['s'] (by decide)
  have discord := describesEach_caselessEach "://discord" (by decide)
  have app := describesEach_caselessEach "app" (by decide)
  have page := describesEach_caselessEach ".com/api/webhooks/" (by decide)
  have address := ((((describes_empty.cons http).append plural.optional_upToCase.last).append
    discord).append app.sequenceAll.optional_upToCase.last).append page
  simp only [one_mul, upToCase_mul] at address
  exact address.sequenceAll.of_texts (by decide +kernel)

theorem describes_joinedPattern (subject kind : String)
    (ascii : areAscii subject.toList = true) (ascii' : areAscii kind.toList = true) :
    (joinedPattern subject kind).Describes (upToCase (joined subject kind)) := by
  have joint := describes_caseless_ofList ['_', '-'] (by decide)
  have name := ((describesEach_caselessEach subject ascii).append
    joint.optional_upToCase.last).append (describesEach_caselessEach kind ascii')
  simp only [upToCase_mul] at name
  exact name.sequenceAll.of_texts rfl

theorem describes_namePattern : namePattern.Describes (upToCase credentialNames) := by
  have apiKey := describes_joinedPattern "api" "key" (by decide) (by decide)
  have apiSecret := describes_joinedPattern "api" "secret" (by decide) (by decide)
  have accessToken := describes_joinedPattern "access" "token" (by decide) (by decide)
  have authToken := describes_joinedPattern "auth" "token" (by decide) (by decide)
  have bearer := (describesEach_caselessEach "bearer" (by decide)).sequenceAll
  have secretKey := describes_joinedPattern "secret" "key" (by decide) (by decide)
  have privateKey := describes_joinedPattern "private" "key" (by decide) (by decide)
  have names := Describes.alternativeAll (.cons apiKey (.cons apiSecret (.cons accessToken
    (.cons authToken (.cons bearer (.cons secretKey (.cons privateKey .nil)))))))
  simp only [List.sum_cons, List.sum_nil, upToCase_add, add_zero] at names
  exact names.of_texts rfl

end Builtin

namespace Line

open Builtin

/-- Some mark says that nothing on the line is to be taken for a secret. -/
def HasHarmlessMark (line : Line) : Prop :=
  ∃ mark ∈ harmlessMarks, mark.toList <:+: line

/-- The line contains the address of a webhook, up to case. -/
def HasWebhook (line : Line) : Prop :=
  ∃ address ∈ webhookAddresses, ∃ stretch, stretch <:+: line ∧
    AgreeUpToCase stretch address.toList

/--
The line contains the name of a credential, up to case, a colon or an equals sign, blanks around
it or not, and between quotes at least 16 characters of tokens, up to case.
-/
def HasCredential (line : Line) : Prop :=
  ∃ before name blanks separator blanks' quote value quote' after,
    line = before ++ name ++ blanks ++ separator :: blanks' ++ quote :: value ++ quote' :: after ∧
      (∃ known ∈ credentialNames, AgreeUpToCase name known.toList) ∧
      (∀ character ∈ blanks, isBlank character = true) ∧
      separator ∈ [':', '='] ∧
      (∀ character ∈ blanks', isBlank character = true) ∧
      quote ∈ quotes ∧
      16 ≤ value.length ∧
      (∀ character ∈ value, ∃ member, (member.isAlphanum = true ∨
        member ∈ ['+', '/', '=', '_', '-']) ∧ foldCase character = foldCase member) ∧
      quote' ∈ quotes

/-- The line contains between quotes at least 40 characters of an encoding by letters and digits. -/
def HasEncodedLiteral (line : Line) : Prop :=
  ∃ before quote value quote' after, line = before ++ quote :: value ++ quote' :: after ∧
    quote ∈ quotes ∧
    40 ≤ value.length ∧
    (∀ character ∈ value, character.isAlphanum = true ∨ character ∈ ['+', '/', '=']) ∧
    quote' ∈ quotes

variable {line : Line}

theorem isMatch_webhookPattern_iff : webhookPattern.isMatch line = true ↔ line.HasWebhook := by
  rw [describes_webhookPattern.isMatch_iff]
  constructor
  · rintro ⟨stretch, ⟨address, listed, agrees⟩, infixed⟩
    exact ⟨address, listed, stretch, infixed, agrees⟩
  · rintro ⟨address, listed, stretch, infixed, agrees⟩
    exact ⟨stretch, ⟨address, listed, agrees⟩, infixed⟩

theorem isMatch_literalPattern_iff :
    literalPattern.isMatch line = true ↔ line.HasEncodedLiteral := by
  have literal := ((describes_char (.ofList quotes)).cons
    ((describes_counted_char (tokenSet ['+', '/', '=']) 40).cons
      (describes_char (.ofList quotes)).last)).sequenceAll
  rw [literalPattern, literal.isMatch_iff]
  simp only [mem_mul_iff_split, CharSet.mem_one_iff, CharSet.mem_many_iff,
    CharSet.contains_ofList_iff, contains_tokenSet_iff]
  constructor
  · rintro ⟨_, ⟨_, _, rfl, ⟨quote, isQuote, rfl⟩, value, _, rfl, ⟨length, members⟩,
      quote', isQuote', rfl⟩, before, after, rfl⟩
    exact ⟨before, quote, value, quote', after, by simp, isQuote, length, members, isQuote'⟩
  · rintro ⟨before, quote, value, quote', after, rfl, isQuote, length, members, isQuote'⟩
    exact ⟨_, ⟨_, _, rfl, ⟨quote, isQuote, rfl⟩, value, _, rfl, ⟨length, members⟩,
      quote', isQuote', rfl⟩, before, after, by simp⟩

theorem isMatch_credentialPattern_iff :
    credentialPattern.isMatch line = true ↔ line.HasCredential := by
  have quoted := (describes_char (.caseless (.ofList quotes))).cons
    ((describes_counted_char (.caseless (tokenSet ['+', '/', '=', '_', '-'])) 16).cons
      (describes_char (.caseless (.ofList quotes))).last)
  have credential := (describes_empty.cons (describes_namePattern.cons
    ((describes_star_char .blank).cons ((describes_char (.caseless (.ofList [':', '=']))).cons
      ((describes_star_char .blank).cons quoted))))).sequenceAll
  have ascii : ∀ member, (tokenSet ['+', '/', '=', '_', '-']).contains member = true →
      member.toNat < 0x80 := by
    intro member
    exact toNat_of_contains_tokenSet (by decide)
  -- A stretch is in the product of the languages if it can be cut into one piece of each.
  rw [credentialPattern, credential.isMatch_iff, one_mul]
  simp only [mem_mul_iff_split, mem_upToCase_iff, CharSet.mem_one_iff, CharSet.mem_many_iff,
    CharSet.contains_caseless_ofList_iff quotes (by decide),
    CharSet.contains_caseless_ofList_iff [':', '='] (by decide),
    CharSet.contains_caseless_iff ascii, contains_tokenSet_iff]
  constructor
  · rintro ⟨_, ⟨name, _, rfl, known, blanks, _, rfl, ⟨_, areBlank⟩, _, _, rfl,
      ⟨separator, isSeparator, rfl⟩, blanks', _, rfl, ⟨_, areBlank'⟩, _, _, rfl,
      ⟨quote, isQuote, rfl⟩, value, _, rfl, ⟨length, members⟩, quote', isQuote', rfl⟩,
      before, after, rfl⟩
    exact ⟨before, name, blanks, separator, blanks', quote, value, quote', after, by simp, known,
      areBlank, isSeparator, areBlank', isQuote, length, members, isQuote'⟩
  · rintro ⟨before, name, blanks, separator, blanks', quote, value, quote', after, rfl, known,
      areBlank, isSeparator, areBlank', isQuote, length, members, isQuote'⟩
    exact ⟨_, ⟨name, _, rfl, known, blanks, _, rfl, ⟨Nat.zero_le _, areBlank⟩, _, _, rfl,
      ⟨separator, isSeparator, rfl⟩, blanks', _, rfl, ⟨Nat.zero_le _, areBlank'⟩, _, _, rfl,
      ⟨quote, isQuote, rfl⟩, value, _, rfl, ⟨length, members⟩, quote', isQuote', rfl⟩,
      before, after, by simp⟩

end Line

namespace RuleSet

variable {limit : Option Nat} {policy : Policy} {rules : RuleSet} {line : Line}

theorem Reads.isMatch_secretFalsePositive_iff (reads : rules.Reads limit policy) :
    rules.secretFalsePositive.isMatch line = true ↔ line.HasHarmlessMark := by
  have parsed := parse?_of_compile? reads.secretFalsePositive
  rw [Builtin.parse?_secretFalsePositive, Option.some.injEq] at parsed
  rw [← parsed, isMatch_alternativeAll_iff]
  simp only [List.mem_map, exists_exists_and_eq_and, isMatch_text_iff, Line.HasHarmlessMark]

end RuleSet

namespace Check

variable {limit : Option Nat} {policy : Policy} {auditor : Auditor} {path : String}

/-- Of the three rules the first one in the table that applies is reported. -/
theorem reports_secretLeakage (reads : auditor.rules.Reads limit policy) (line : Line) :
    secretLeakage.reports auditor line =
      if Builtin.webhookPattern.isMatch line then
        [(.secretLeakage, "Plaintext Discord webhook URL detected")]
      else if Builtin.credentialPattern.isMatch line then
        [(.secretLeakage, "Potential secret or API key in plaintext")]
      else if Builtin.literalPattern.isMatch line then
        [(.secretLeakage, "High-entropy string literal (potential encoded secret)")]
      else [] := by
  have listed := reads.secrets.rules_eq Builtin.parse?_secrets
  simp only [reports, RuleTable.firing_eq_toList reads.secretMode, RuleTable.firstMatch?, listed,
    Builtin.secrets, RuleText.secret, List.zipWith_cons_cons, List.zipWith_nil_left,
    List.find?_cons, List.find?_nil, Rule.isMatch]
  cases Builtin.webhookPattern.isMatch line with
  | true => rfl
  | false =>
      cases Builtin.credentialPattern.isMatch line with
      | true => rfl
      | false => cases Builtin.literalPattern.isMatch line <;> rfl

/--
In a file that is neither a policy document nor exempt, nothing is reported for a line with a
harmless mark. For any other line one finding is reported at most: that of a webhook, else that
of a credential, else that of an encoded literal.
-/
theorem findings_secretLeakage_line (read : Auditor.ofPolicy policy limit = .ok auditor)
    (judged : auditor.classifier.isGovernanceFile path = false)
    (notExempt : auditor.classifier.isSecretExempt path = false) (before : List Line)
    (line : Line) (after : List Line) :
    let found := (secretLeakage.findings auditor path (before ++ line :: after)).filter
      fun finding => finding.line == before.length + 1
    let reported (message : String) : List Finding :=
      [{ label := .secretLeakage, file := path, line := before.length + 1, detail := message }]
    (line.HasHarmlessMark → found = []) ∧
      (¬line.HasHarmlessMark →
        (line.HasWebhook → found = reported "Plaintext Discord webhook URL detected") ∧
        (¬line.HasWebhook → line.HasCredential →
          found = reported "Potential secret or API key in plaintext") ∧
        (¬line.HasWebhook → ¬line.HasCredential → line.HasEncodedLiteral →
          found = reported "High-entropy string literal (potential encoded secret)") ∧
        (¬line.HasWebhook → ¬line.HasCredential → ¬line.HasEncodedLiteral → found = [])) := by
  intro found reported
  have reads := (Auditor.ofPolicy_eq_ok_iff.1 read).1
  have applies : secretLeakage.appliesTo auditor.classifier path = true := by
    simp [appliesTo, judged, notExempt]
  have found_eq : found =
      if auditor.rules.secretFalsePositive.isMatch line then []
      else (secretLeakage.reports auditor line).map fun report =>
        { label := report.1, file := path, line := before.length + 1, detail := report.2 } := by
    simp only [found]
    rw [filter_findings_line, if_pos applies, lineFindings, considers]
    cases auditor.rules.secretFalsePositive.isMatch line <;> rfl
  rw [found_eq, reports_secretLeakage reads, ← reads.isMatch_secretFalsePositive_iff,
    ← Line.isMatch_webhookPattern_iff, ← Line.isMatch_credentialPattern_iff,
    ← Line.isMatch_literalPattern_iff]
  refine ⟨fun harmless => if_pos harmless, fun suspicious => ?_⟩
  rw [if_neg suspicious]
  refine ⟨?_, ?_, ?_, ?_⟩
  · intro webhook
    rw [if_pos webhook]
    rfl
  · intro noWebhook credential
    rw [if_neg noWebhook, if_pos credential]
    rfl
  · intro noWebhook noCredential literal
    rw [if_neg noWebhook, if_neg noCredential, if_pos literal]
    rfl
  · intro noWebhook noCredential noLiteral
    rw [if_neg noWebhook, if_neg noCredential, if_neg noLiteral]
    rfl

/-- A long s in the name and a Kelvin sign in the value are letters like any other. -/
theorem findings_secretLeakage_line_folded :
    ∃ auditor, Auditor.ofPolicy {} = .ok auditor ∧
      let line := "API-\u017fECRET= \"0123456789abcde\u212a'".toList
      (secretLeakage.findings auditor "A.swift" ["import A".toList, line]).filter
          (fun finding => finding.line == 2) =
        [{ label := .secretLeakage, file := "A.swift", line := 2,
           detail := "Potential secret or API key in plaintext" }] := by
  rcases Auditor.exists_ofPolicy_builtin with ⟨auditor, read⟩
  obtain rfl := Auditor.eq_assembled read
  refine ⟨.assembled {}, read, ?_⟩
  intro line
  have judged : (Classifier.assembled {}).isGovernanceFile "A.swift" = false := by decide +kernel
  have notExempt : (Classifier.assembled {}).isSecretExempt "A.swift" = false := by decide +kernel
  have suspicious : ¬Line.HasHarmlessMark line := by
    unfold Line.HasHarmlessMark
    decide +kernel
  have noWebhook : ¬Line.HasWebhook line := by
    rw [← Line.isMatch_webhookPattern_iff]
    decide +kernel
  have credential : Line.HasCredential line := by
    rw [← Line.isMatch_credentialPattern_iff]
    decide +kernel
  have reported := findings_secretLeakage_line read judged notExempt ["import A".toList] line []
  exact (reported.2 suspicious).2.1 noWebhook credential

end Check

end Precommit
