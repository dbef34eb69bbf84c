import Precommit.Proofs.Audit.Provenance

/-!
# Exempting files

Three lists of a policy exempt files from checks: policy documents, test files and files
that may hold secrets. A longer list takes away exactly the findings that its checks have in
the files that it names, and leaves all others where they are (`audit_exempting`).
-/

namespace Precommit

/-- The lists of a policy that exempt files from checks. -/
inductive Exemption
  | governance
  | test
  | secret
deriving DecidableEq, Repr

namespace Exemption

def all : List Exemption :=
  [.governance, .test, .secret]

/-- What the list of a scan section holds. -/
def entries (exemption : Exemption) (scan : ScanPolicy) : List String :=
  match exemption with
  | .governance => scan.governanceFiles
  | .test => scan.testSuffixes
  | .secret => scan.secretExempt

/-- The scan section with another list. -/
def withEntries (exemption : Exemption) (scan : ScanPolicy) (entries : List String) :
    ScanPolicy :=
  match exemption with
  | .governance => { scan with governanceFiles := entries }
  | .test => { scan with testSuffixes := entries }
  | .secret => { scan with secretExempt := entries }

/-- The codes of the findings that the list takes away. -/
def codes (exemption : Exemption) : List String :=
  match exemption with
  | .governance => ["PZ-001", "SL-001"]
  | .test => ["DA-001"]
  | .secret => ["SL-001"]

/-- Whether a list of entries names a file: its base name, the end of it, or its path. -/
def names (exemption : Exemption) (entries : List String) (path : String) : Bool :=
  match exemption with
  | .governance => (Path.baseName? path).any entries.contains
  | .test =>
      (Path.baseName? path).any fun name =>
        entries.any fun suffix => suffix.toList.isSuffixOf name.toList
  | .secret =>
      entries.any fun text =>
        (Glob.parse? text.toList).any fun glob => glob.isMatch (Path.normalize path).toList

/-- Whether the list exempts files from the check. -/
def covers : Exemption → Check → Bool
  | .governance, .protocolZero => true
  | .governance, .secretLeakage => true
  | .test, .debugArtifact => true
  | .secret, .secretLeakage => true
  | _, _ => false

/-- A check is covered with all of its labels or with none. -/
theorem contains_codes_eq_covers {exemption : Exemption} {check : Check} :
    ∀ label ∈ check.labels, exemption.codes.contains label.id = exemption.covers check := by
  cases exemption <;> cases check <;> decide

theorem not_contains_codes_commitMessage (exemption : Exemption) :
    exemption.codes.contains Label.commitMessage.id = false := by
  cases exemption <;> decide

/-- Whether a list of entries takes the finding away. -/
def takes (exemption : Exemption) (entries : List String) (finding : Finding) : Bool :=
  exemption.codes.contains finding.label.id && exemption.names entries finding.file

theorem names_mono {exemption : Exemption} {entries more : List String} {path : String}
    (larger : entries ⊆ more) (named : exemption.names entries path = true) :
    exemption.names more path = true := by
  cases exemption with
  | governance =>
      simp only [names, Option.any_eq_true, List.contains_iff_mem] at named ⊢
      rcases named with ⟨name, base, listed⟩
      exact ⟨name, base, larger listed⟩
  | test =>
      simp only [names, Option.any_eq_true, List.any_eq_true] at named ⊢
      rcases named with ⟨name, base, suffix, listed, ends⟩
      exact ⟨name, base, suffix, larger listed, ends⟩
  | secret =>
      simp only [names, List.any_eq_true] at named ⊢
      rcases named with ⟨text, listed, matched⟩
      exact ⟨text, larger listed, matched⟩

end Exemption

variable {limit : Option Nat} {scan : ScanPolicy} {classifier : Classifier}

namespace Classifier

theorem any_isMatch_eq_names {texts : List String} {globs : List Glob}
    (parsed : List.Forall₂ (fun text glob => Glob.parse? text.toList = some glob) texts globs)
    (path : String) :
    (globs.any fun glob => glob.isMatch (Path.normalize path).toList) =
      Exemption.secret.names texts path := by
  simp only [Exemption.names]
  induction parsed with
  | nil => rfl
  | cons parsed _ ih => rw [List.any_cons, List.any_cons, ih, parsed, Option.any_some]

theorem isSecretExempt_eq_names (read : ofPolicy scan limit = .ok classifier) (path : String) :
    classifier.isSecretExempt path = Exemption.secret.names scan.secretExempt path :=
  any_isMatch_eq_names (ofPolicy_eq_ok_iff.1 read).2.1 path

end Classifier

/-- Whether the check is one of source files only. -/
def Check.isOfSources : Check → Bool
  | .protocolZero => false
  | .forceUnwrap => true
  | .debugArtifact => true
  | .bannedApi => true
  | .secretLeakage => false

/-- A check applies to a file of its kind unless a list that covers the check names the file. -/
theorem Check.appliesTo_eq (read : Classifier.ofPolicy scan limit = .ok classifier)
    (check : Check) (path : String) :
    check.appliesTo classifier path =
      ((!check.isOfSources || Path.extension? path == some scan.sourceExtension) &&
        Exemption.all.all fun exemption =>
          !(exemption.covers check && exemption.names (exemption.entries scan) path)) := by
  have secret := Classifier.isSecretExempt_eq_names read path
  obtain rfl := (Classifier.ofPolicy_eq_ok_iff.1 read).1
  cases check <;>
    simp [appliesTo, isOfSources, Exemption.all, Exemption.covers, Exemption.entries,
      Exemption.names, Classifier.isGovernanceFile, Classifier.isSourceFile,
      Classifier.isTestFile, secret]

/-- With a longer list a check applies to the files that it did, unless the list names them. -/
theorem Check.appliesTo_withEntries {policy : ScanPolicy} {first second : Classifier}
    {exemption : Exemption} {more : List String} (larger : exemption.entries policy ⊆ more)
    (read : Classifier.ofPolicy policy limit = .ok first)
    (read' : Classifier.ofPolicy (exemption.withEntries policy more) limit = .ok second)
    (check : Check) (path : String) :
    check.appliesTo second path =
      (check.appliesTo first path && !(exemption.covers check && exemption.names more path)) := by
  have mono := @Exemption.names_mono exemption _ _ path larger
  rw [check.appliesTo_eq read, check.appliesTo_eq read']
  cases exemption <;>
    simp only [Exemption.all, List.all_cons, List.all_nil, Exemption.entries,
      Exemption.withEntries] at mono ⊢ <;> grind

theorem Classifier.isScannable_withEntries {policy : ScanPolicy} {first second : Classifier}
    {exemption : Exemption} {more : List String}
    (read : Classifier.ofPolicy policy limit = .ok first)
    (read' : Classifier.ofPolicy (exemption.withEntries policy more) limit = .ok second)
    (path : String) : second.isScannable path = first.isScannable path := by
  have scan := (Classifier.ofPolicy_eq_ok_iff.1 read).1
  have scan' := (Classifier.ofPolicy_eq_ok_iff.1 read').1
  have excluded : second.isExcludedDir = first.isExcludedDir := by
    funext name
    rw [isExcludedDir, isExcludedDir, scan, scan']
    cases exemption <;> rfl
  rw [isScannable, isScannable, isScannableExtension, isScannableExtension, isExcludedPath,
    isExcludedPath, excluded, scan, scan']
  cases exemption <;> rfl

section

variable {auditor : Auditor} {exemption : Exemption} {more : List String} {path : String}

/-- The classifier of an auditor decides to which files a check applies, and nothing else. -/
theorem Check.findings_of_appliesTo_eq {check : Check} {second : Classifier}
    (same : check.appliesTo second path = check.appliesTo auditor.classifier path)
    (lines : List Line) :
    check.findings { auditor with classifier := second } path lines =
      check.findings auditor path lines := by
  rw [findings, findings, same]
  cases check <;> rfl

theorem Check.takes_eq (labelled : auditor.rules.Labelled) {check : Check} {lines : List Line}
    {finding : Finding} (member : finding ∈ check.findings auditor path lines) :
    exemption.takes more finding = (exemption.covers check && exemption.names more path) := by
  rcases exists_states_of_mem_findings labelled member with
    ⟨position, file, before, line, after, _, _, breach⟩
  rw [Exemption.takes, file, Exemption.contains_codes_eq_covers _ breach.label_mem_labels]

/-- A check finds with the longer list what it found before and the list does not take away. -/
theorem Check.findings_eq_filter (labelled : auditor.rules.Labelled) {check : Check}
    {second : Classifier}
    (applies : check.appliesTo second path =
      (check.appliesTo auditor.classifier path &&
        !(exemption.covers check && exemption.names more path)))
    (lines : List Line) :
    check.findings { auditor with classifier := second } path lines =
      (check.findings auditor path lines).filter fun finding => !exemption.takes more finding := by
  cases taken : exemption.covers check && exemption.names more path with
  | true =>
      rw [taken, Bool.not_true, Bool.and_false] at applies
      have none : check.findings { auditor with classifier := second } path lines = [] := by
        rw [findings, applies]
        rfl
      rw [none, eq_comm, List.filter_eq_nil_iff]
      intro finding member
      rw [takes_eq labelled member, taken]
      decide
  | false =>
      rw [taken, Bool.not_false, Bool.and_true] at applies
      rw [findings_of_appliesTo_eq applies, eq_comm, List.filter_eq_self]
      intro finding member
      rw [takes_eq labelled member, taken]
      rfl

namespace Auditor

theorem messageFindings_filter (message : Option String) :
    (auditor.messageFindings message).filter (fun finding => !exemption.takes more finding) =
      auditor.messageFindings message := by
  rw [List.filter_eq_self]
  intro finding member
  rw [Exemption.takes, (isMarked_of_mem_messageFindings member).1,
    exemption.not_contains_codes_commitMessage]
  rfl

theorem rules_eq_of_withEntries {policy : Policy} {first second : Auditor}
    (read : ofPolicy policy limit = .ok first)
    (read' : ofPolicy { policy with scan := exemption.withEntries policy.scan more } limit =
      .ok second) :
    second = { first with classifier := second.classifier } := by
  rcases ofPolicy_eq_ok_iff.1 read with ⟨rules, _, length⟩
  rcases ofPolicy_eq_ok_iff.1 read' with ⟨rules', _, length'⟩
  have sameRules : second.rules = first.rules := (rules'.withScan policy.scan).unique rules
  have sameLength : second.excerptLength = first.excerptLength := by
    rw [length, length']
    cases exemption <;> rfl
  rw [← sameRules, ← sameLength]

/--
Of two policies that differ in one list of exempt files, where the second list has all
entries of the first one, the second audit scans as many files and has the findings of the
first one, in their order, without those of the checks of the list in the files that the
second list names.
-/
theorem audit_exempting {policy : Policy} {first second : Auditor} (exemption : Exemption)
    (more : List String) (larger : exemption.entries policy.scan ⊆ more)
    (read : ofPolicy policy limit = .ok first)
    (read' : ofPolicy { policy with scan := exemption.withEntries policy.scan more } limit =
      .ok second)
    (read? : String → Option Bytes) (paths : List String) (message : Option String) :
    second.audit read? paths message =
      { filesScanned := (first.audit read? paths message).filesScanned
        findings :=
          (first.audit read? paths message).findings.filter fun finding =>
            !(exemption.codes.contains finding.label.id &&
              exemption.names more finding.file) } := by
  have labelled := (ofPolicy_eq_ok_iff.1 read).1.labelled
  have classified := (ofPolicy_eq_ok_iff.1 read).2.1
  have classified' := (ofPolicy_eq_ok_iff.1 read').2.1
  have scannable := Classifier.isScannable_withEntries classified classified'
  have text : ∀ path text, second.textFindings path text =
      (first.textFindings path text).filter fun finding => !exemption.takes more finding := by
    intro path text
    rw [rules_eq_of_withEntries read read', textFindings, textFindings, List.filter_flatMap]
    refine congrArg (List.flatMap · Check.all) (funext fun check => ?_)
    exact Check.findings_eq_filter labelled
      (Check.appliesTo_withEntries larger classified classified' check path) _
  have contributes : ∀ path, second.contribution read? path =
      (first.contribution read? path).filter fun finding => !exemption.takes more finding := by
    intro path
    simp only [contribution, scannable]
    split
    · split
      · exact text path _
      · rfl
    · rfl
  have scanned : second.isScanned read? = first.isScanned read? := by
    funext path
    rw [isScanned, isScanned, scannable]
  have sameMessage : second.messageFindings message = first.messageFindings message := by
    rw [rules_eq_of_withEntries read read']
    rfl
  change second.audit read? paths message = AuditResult.mk _
    (List.filter (fun finding => !exemption.takes more finding) _)
  rw [audit_eq, audit_eq, scanned, sameMessage, funext contributes, ← List.filter_flatMap,
    List.filter_append, messageFindings_filter]

/-- The phrase in a file that becomes a policy document is not reported any more. -/
theorem audit_exempting_readme :
    ∃ first second, ofPolicy {} = .ok first ∧
      ofPolicy { scan := { governanceFiles := "README.md" :: ({} : ScanPolicy).governanceFiles } } =
        .ok second ∧
      let read? : String → Option Bytes := fun _ => some (Utf8.encode "As an AI!".toList)
      let paths := ["README.md", "A.md"]
      let phrase (path : String) : Finding :=
        ⟨.protocolZero, path, 1, r"Forbidden phrase matched: as\s+an\s+ai"⟩
      first.audit read? paths none = ⟨2, [phrase "README.md", phrase "A.md"]⟩ ∧
        second.audit read? paths none = ⟨2, [phrase "A.md"]⟩ ∧
        second.audit read? paths none =
          { filesScanned := (first.audit read? paths none).filesScanned
            findings := (first.audit read? paths none).findings.filter fun finding =>
              !(["PZ-001", "SL-001"].contains finding.label.id &&
                (Path.baseName? finding.file).any
                  ("README.md" :: ({} : ScanPolicy).governanceFiles).contains) } := by
  rcases exists_ofPolicy_builtin with ⟨first, read⟩
  rcases ofPolicy_eq_ok_iff.1 read with ⟨rules, classified, length⟩
  rcases Classifier.ofPolicy_eq_ok_iff.1 classified with ⟨_, globs, buildable⟩
  have read' : ofPolicy
      { scan := { governanceFiles := "README.md" :: ({} : ScanPolicy).governanceFiles } } =
      .ok { first with classifier := { first.classifier with
        scan := { governanceFiles := "README.md" :: ({} : ScanPolicy).governanceFiles } } } :=
    ofPolicy_eq_ok_iff.2
      ⟨rules.withScan _, Classifier.ofPolicy_eq_ok_iff.2 ⟨rfl, globs, buildable⟩, length⟩
  refine ⟨first, _, read, read', ?_⟩
  intro read? paths phrase
  have old : first.audit read? paths none = ⟨2, [phrase "README.md", phrase "A.md"]⟩ := by
    rw [eq_assembled read]
    decide +kernel
  have exempted := audit_exempting .governance _ (List.subset_cons_self _ _) read read' read? paths
    none
  refine ⟨old, exempted.trans ?_, exempted⟩
  rw [old]
  decide +kernel

end Auditor

end

end Precommit
