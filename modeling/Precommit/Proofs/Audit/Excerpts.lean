import Precommit.Proofs.Audit.Provenance
import Precommit.Proofs.Check.DebugCalls
import Precommit.Proofs.Text.Excerpt

/-!
# The length of excerpts

A finding of diagnostic output quotes the beginning of its line. The number of characters that
is quoted has no part in anything else: two policies that differ in it alone lead to the same
findings at the same places, and only what these findings quote is longer or shorter
(`audit_excerptLength`).
-/

namespace Precommit

/-- The policy with another number of characters that a finding quotes at most. -/
def Policy.withExcerptLength (policy : Policy) (length : Nat) : Policy :=
  { policy with scan := { policy.scan with excerptLength := length } }

/-- What is reported for a line with diagnostic output if so many characters are quoted. -/
def Line.debugDetail (length : Nat) (line : Line) : String :=
  "Debug statement detected: " ++ String.ofList (Text.excerpt length (Text.trim line))

/--
The findings are the same but for what is quoted: if they are of diagnostic output, each has
the beginning of the line that both are about, one up to `shorter` and one up to `longer`
characters.
-/
structure Finding.Requoted (read? : String → Option Bytes) (shorter longer : Nat)
    (finding finding' : Finding) : Prop where
  label : finding'.label = finding.label
  file : finding'.file = finding.file
  line : finding'.line = finding.line
  unquoted : finding.label.id ≠ "DA-001" → finding'.detail = finding.detail
  quoted : finding.label.id = "DA-001" → ∃ content before line after,
    read? finding.file = some content ∧
      Text.lines (Text.universalBreaks (Utf8.decodeLossy content)) = before ++ line :: after ∧
      finding.line = before.length + 1 ∧
      finding.detail = Line.debugDetail shorter line ∧
      finding'.detail = Line.debugDetail longer line

namespace Line

variable {shorter longer : Nat}

theorem toList_debugDetail (length : Nat) (line : Line) :
    (debugDetail length line).toList =
      "Debug statement detected: ".toList ++ Text.excerpt length (Text.trim line) := by
  unfold debugDetail
  generalize "Debug statement detected: " = notice
  rw [String.toList_append, String.toList_ofList]

theorem debugDetail_prefix (le : shorter ≤ longer) (line : Line) :
    (debugDetail shorter line).toList <+: (debugDetail longer line).toList := by
  rw [toList_debugDetail, toList_debugDetail, List.prefix_append_right_inj]
  exact Text.excerpt_prefix_excerpt le (Text.trim line)

theorem debugDetail_eq_iff (le : shorter ≤ longer) (line : Line) :
    debugDetail longer line = debugDetail shorter line ↔
      (Text.trim line).length ≤ shorter ∨ shorter = longer := by
  rw [← String.toList_inj, toList_debugDetail, toList_debugDetail, List.append_cancel_left_eq,
    Text.excerpt_eq_excerpt_iff le]

end Line

theorem Finding.Requoted.refl {read? : String → Option Bytes} {shorter longer : Nat}
    {finding : Finding} (other : finding.label.id ≠ "DA-001") :
    Finding.Requoted read? shorter longer finding finding where
  label := rfl
  file := rfl
  line := rfl
  unquoted := fun _ => rfl
  quoted := fun debug => absurd debug other

/-- What is found item by item is related if it is for every item. -/
theorem forall₂_flatMap {Item Value Value' : Type} {Related : Value → Value' → Prop}
    {items : List Item} {found : Item → List Value} {found' : Item → List Value'}
    (each : ∀ item ∈ items, List.Forall₂ Related (found item) (found' item)) :
    List.Forall₂ Related (items.flatMap found) (items.flatMap found') := by
  induction items with
  | nil => exact .nil
  | cons item rest ih =>
      rw [List.forall_mem_cons] at each
      exact List.rel_append each.1 (ih each.2)

namespace Classifier

/-- The classifier keeps its scan section, of which the number is a part that it never asks for. -/
def withExcerptLength (classifier : Classifier) (length : Nat) : Classifier :=
  { classifier with scan := { classifier.scan with excerptLength := length } }

end Classifier

namespace Auditor

variable {limit : Option Nat} {policy : Policy} {auditor : Auditor} {length shorter longer : Nat}
  {read? : String → Option Bytes}

def withExcerptLength (auditor : Auditor) (length : Nat) : Auditor :=
  { auditor with
    classifier := auditor.classifier.withExcerptLength length
    excerptLength := length }

/-- Whatever number it has, a policy can be read or fails to be read in the same way. -/
theorem ofPolicy_withExcerptLength (policy : Policy) (length : Nat) :
    ofPolicy (policy.withExcerptLength length) limit =
      (ofPolicy policy limit).map fun auditor => auditor.withExcerptLength length := by
  have rules : RuleSet.ofPolicy (policy.withExcerptLength length) limit =
      RuleSet.ofPolicy policy limit :=
    rfl
  have classifier : Classifier.ofPolicy (policy.withExcerptLength length).scan limit =
      (Classifier.ofPolicy policy.scan limit).map fun classifier =>
        classifier.withExcerptLength length := by
    rw [Classifier.ofPolicy, Classifier.ofPolicy]
    change ((policy.scan.secretExempt.mapM Classifier.readGlob) >>= _) =
      Except.map _ ((policy.scan.secretExempt.mapM Classifier.readGlob) >>= _)
    cases policy.scan.secretExempt.mapM Classifier.readGlob with
    | error fault => rfl
    | ok globs =>
        simp only [bind, Except.bind]
        split <;> rfl
  rw [ofPolicy, ofPolicy, rules, classifier]
  cases RuleSet.ofPolicy policy limit with
  | error fault => rfl
  | ok rules =>
      cases Classifier.ofPolicy policy.scan limit <;> rfl

theorem eq_withExcerptLength {auditor' : Auditor} (read : ofPolicy policy limit = .ok auditor)
    (read' : ofPolicy (policy.withExcerptLength length) limit = .ok auditor') :
    auditor' = auditor.withExcerptLength length := by
  rw [ofPolicy_withExcerptLength, read] at read'
  exact (Except.ok.inj read').symm

end Auditor

namespace Check

variable {limit : Option Nat} {policy : Policy} {auditor : Auditor} {longer : Nat}
  {read? : String → Option Bytes} {path : String} {content : Bytes}

theorem appliesTo_withExcerptLength (check : Check) (classifier : Classifier) (length : Nat)
    (path : String) :
    check.appliesTo (classifier.withExcerptLength length) path =
      check.appliesTo classifier path := by
  cases check <;> rfl

/-- Only one check quotes lines. -/
theorem findings_withExcerptLength {check : Check} (other : check ≠ .debugArtifact)
    (auditor : Auditor) (length : Nat) (path : String) (lines : List Line) :
    check.findings (auditor.withExcerptLength length) path lines =
      check.findings auditor path lines := by
  cases check with
  | debugArtifact => exact absurd rfl other
  | _ => rfl

theorem id_ne_debugArtifact {check : Check} (other : check ≠ .debugArtifact) :
    ∀ label ∈ check.labels, label.id ≠ "DA-001" := by
  cases check with
  | debugArtifact => exact absurd rfl other
  | _ => decide

theorem requoted_lineFindings_debugArtifact (reads : auditor.rules.Reads limit policy)
    (found : read? path = some content) {before after : List Line} {line : Line}
    (split : Text.lines (Text.universalBreaks (Utf8.decodeLossy content)) =
      before ++ line :: after) (insideDebug : Bool) :
    List.Forall₂ (Finding.Requoted read? auditor.excerptLength longer)
      (debugArtifact.lineFindings auditor path (before.length + 1) insideDebug line)
      (debugArtifact.lineFindings (auditor.withExcerptLength longer) path (before.length + 1)
        insideDebug line) := by
  have considered : debugArtifact.considers (auditor.withExcerptLength longer).rules insideDebug
      line = debugArtifact.considers auditor.rules insideDebug line :=
    rfl
  have reads' : (auditor.withExcerptLength longer).rules.Reads limit policy := reads
  rw [lineFindings, lineFindings, considered, reports_debugArtifact reads,
    reports_debugArtifact reads']
  by_cases looked : debugArtifact.considers auditor.rules insideDebug line = true
  case neg =>
    rw [if_neg looked, if_neg looked]
    exact .nil
  case pos =>
    rw [if_pos looked, if_pos looked]
    split
    case isFalse => exact .nil
    case isTrue =>
      refine .cons ?_ .nil
      exact
        { label := rfl
          file := rfl
          line := rfl
          unquoted := fun other => absurd rfl other
          quoted := fun _ => ⟨content, before, line, after, found, split, rfl, rfl, rfl⟩ }

/-- A check has the same findings in a file that is read, but for what they quote. -/
theorem requoted_findings (reads : auditor.rules.Reads limit policy)
    (found : read? path = some content) (check : Check) :
    let lines := Text.lines (Text.universalBreaks (Utf8.decodeLossy content))
    List.Forall₂ (Finding.Requoted read? auditor.excerptLength longer)
      (check.findings auditor path lines)
      (check.findings (auditor.withExcerptLength longer) path lines) := by
  intro lines
  by_cases debug : check = .debugArtifact
  case neg =>
    rw [findings_withExcerptLength debug, List.forall₂_same]
    intro finding member
    rcases exists_states_of_mem_findings reads.labelled member with
      ⟨_, _, _, _, _, _, _, breach⟩
    exact .refl (id_ne_debugArtifact debug _ breach.label_mem_labels)
  case pos =>
    rw [debug, findings, findings]
    have applies : debugArtifact.appliesTo (auditor.withExcerptLength longer).classifier path =
        debugArtifact.appliesTo auditor.classifier path :=
      appliesTo_withExcerptLength _ _ _ _
    rw [applies]
    split
    case isFalse => exact .nil
    case isTrue =>
      apply forall₂_flatMap
      intro part listed
      rcases Line.exists_split_of_mem_zip listed with ⟨before, line, after, split, rfl⟩
      exact requoted_lineFindings_debugArtifact reads found split _

end Check

namespace Auditor

variable {limit : Option Nat} {policy : Policy} {auditor : Auditor} {longer : Nat}
  {read? : String → Option Bytes}

theorem requoted_contribution (reads : auditor.rules.Reads limit policy) (path : String) :
    List.Forall₂ (Finding.Requoted read? auditor.excerptLength longer)
      (auditor.contribution read? path)
      ((auditor.withExcerptLength longer).contribution read? path) := by
  have scannable : (auditor.withExcerptLength longer).classifier.isScannable path =
      auditor.classifier.isScannable path :=
    rfl
  rw [contribution, contribution, scannable]
  split
  case isFalse => exact .nil
  case isTrue =>
    cases found : read? path with
    | none => exact .nil
    | some content =>
        simp only [fileFindings_eq_flatMap]
        exact forall₂_flatMap fun check _ => Check.requoted_findings reads found check

theorem requoted_messageFindings (message : Option String) :
    List.Forall₂ (Finding.Requoted read? auditor.excerptLength longer)
      (auditor.messageFindings message)
      ((auditor.withExcerptLength longer).messageFindings message) := by
  have same : (auditor.withExcerptLength longer).messageFindings message =
      auditor.messageFindings message :=
    rfl
  rw [same, List.forall₂_same]
  intro finding member
  apply Finding.Requoted.refl
  rw [(isMarked_of_mem_messageFindings member).1]
  decide

/--
Of two policies that differ in the length of excerpts alone, both audits scan as many files and
have the same findings in the same order, but for the details of diagnostic output. There one
detail is the beginning of the other, and they are the same exactly if the trimmed line has no
further characters or the lengths are the same. A detail quotes whole characters of the trimmed
line, as many as it may or as there are; and an excerpt of a longer excerpt is the excerpt.
-/
theorem audit_excerptLength {auditor' : Auditor} (le : policy.scan.excerptLength ≤ longer)
    (read : ofPolicy policy limit = .ok auditor)
    (read' : ofPolicy (policy.withExcerptLength longer) limit = .ok auditor')
    (read? : String → Option Bytes) (paths : List String) (message : Option String) :
    let shorter := policy.scan.excerptLength
    let result := auditor.audit read? paths message
    let result' := auditor'.audit read? paths message
    result'.filesScanned = result.filesScanned ∧
    List.Forall₂ (Finding.Requoted read? shorter longer) result.findings result'.findings ∧
    (∀ line : Line,
      (Line.debugDetail shorter line).toList <+: (Line.debugDetail longer line).toList ∧
      (Line.debugDetail longer line = Line.debugDetail shorter line ↔
        (Text.trim line).length ≤ shorter ∨ shorter = longer)) ∧
    (∀ length text, Text.truncateBytes length text = Utf8.encode (Text.excerpt length text) ∧
      Text.excerpt length text <+: text ∧
      (Text.excerpt length text).length = min length text.length) ∧
    ∀ text, Text.excerpt shorter (Text.excerpt longer text) = Text.excerpt shorter text := by
  intro shorter result result'
  rcases ofPolicy_eq_ok_iff.1 read with ⟨reads, _, length⟩
  obtain rfl := eq_withExcerptLength read read'
  refine ⟨?_, ?_, ?_, ?_, Text.excerpt_excerpt le⟩
  · simp only [result, result', audit_eq]
    rfl
  · simp only [result, result', findings_eq_append, shorter, ← length]
    apply List.rel_append
    · exact forall₂_flatMap fun path _ => requoted_contribution reads path
    · exact requoted_messageFindings message
  · intro line
    exact ⟨Line.debugDetail_prefix le line, Line.debugDetail_eq_iff le line⟩
  · intro length text
    exact ⟨Text.truncateBytes_eq length text, List.take_prefix length text,
      Text.length_excerpt length text⟩

/-- With seven characters the excerpt ends behind one of two bytes, and a parenthesis is cut off. -/
theorem audit_excerptLength_cut :
    ∃ auditor auditor', ofPolicy (({} : Policy).withExcerptLength 7) = .ok auditor ∧
      ofPolicy ((({} : Policy).withExcerptLength 7).withExcerptLength 60) = .ok auditor' ∧
      let line : Line := "  print(é)".toList
      let read? : String → Option Bytes := fun _ => some (Utf8.encode line)
      let result := auditor.audit read? ["A.swift"] (some "fix(audio): mute")
      let result' := auditor'.audit read? ["A.swift"] (some "fix(audio): mute")
      result'.filesScanned = result.filesScanned ∧
        List.Forall₂ (Finding.Requoted read? 7 60) result.findings result'.findings ∧
        Line.debugDetail 60 line ≠ Line.debugDetail 7 line ∧
        Text.truncateBytes 7 (Text.trim line) = Utf8.encode "print(é".toList := by
  rcases exists_ofPolicy_builtin with ⟨auditor, read⟩
  have read₇ : ofPolicy (({} : Policy).withExcerptLength 7) =
      .ok (auditor.withExcerptLength 7) := by
    rw [ofPolicy_withExcerptLength, read]
    rfl
  have read₆₀ : ofPolicy ((({} : Policy).withExcerptLength 7).withExcerptLength 60) =
      .ok ((auditor.withExcerptLength 7).withExcerptLength 60) := by
    rw [ofPolicy_withExcerptLength, read₇]
    rfl
  refine ⟨_, _, read₇, read₆₀, ?_⟩
  intro line read? result result'
  have le : (({} : Policy).withExcerptLength 7).scan.excerptLength ≤ 60 := by decide
  have trimmed : Text.trim line = "print(é)".toList := by decide +kernel
  rcases audit_excerptLength le read₇ read₆₀ read? ["A.swift"] (some "fix(audio): mute") with
    ⟨scanned, requoted, details, cut, _⟩
  refine ⟨scanned, requoted, ?_, ?_⟩
  · intro same
    have all := (details line).2.1 same
    rw [trimmed] at all
    exact absurd all (by decide)
  · rw [trimmed, (cut 7 _).1]
    rfl

end Auditor

end Precommit
