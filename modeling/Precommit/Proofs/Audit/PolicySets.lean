import Precommit.Proofs.Audit.Exemption
import Precommit.Proofs.Rule.Grammar
import Precommit.Run

/-!
# The lists of a policy are sets

Whatever consults a list of a policy asks for its members only: names are looked up, endings
and globs are tried until one fits, and types and scopes are alternatives of a pattern that
either matches or does not. So neither the order of a list nor an entry that is given twice
shows in the files that are listed, in the result of their audit or in its reports
(`audit_sameSets`).
-/

namespace Precommit

/-- The lists have the same entries, in whatever order and however often. -/
def SameEntries (entries others : List String) : Prop :=
  ∀ entry, entry ∈ entries ↔ entry ∈ others

namespace SameEntries

variable {entries others : List String}

theorem contains_eq (same : SameEntries entries others) :
    entries.contains = others.contains := by
  funext entry
  rw [Bool.eq_iff_iff, List.contains_iff_mem, List.contains_iff_mem]
  exact same entry

theorem names_eq (same : SameEntries entries others) (exemption : Exemption) (path : String) :
    exemption.names entries path = exemption.names others path := by
  rw [Bool.eq_iff_iff]
  constructor
  · apply Exemption.names_mono
    intro entry
    exact (same entry).1
  · apply Exemption.names_mono
    intro entry
    exact (same entry).2

end SameEntries

/-- The policies differ at most in the order of their lists and in repeated entries. -/
structure Policy.SameSets (policy other : Policy) : Prop where
  governanceFiles : SameEntries policy.scan.governanceFiles other.scan.governanceFiles
  excludedDirs : SameEntries policy.scan.excludedDirs other.scan.excludedDirs
  extensions : SameEntries policy.scan.extensions other.scan.extensions
  sourceExtension : policy.scan.sourceExtension = other.scan.sourceExtension
  testSuffixes : SameEntries policy.scan.testSuffixes other.scan.testSuffixes
  secretExempt : SameEntries policy.scan.secretExempt other.scan.secretExempt
  excerptLength : policy.scan.excerptLength = other.scan.excerptLength
  types : SameEntries policy.commit.types other.commit.types
  scopes : SameEntries policy.commit.scopes other.commit.scopes
  maxSubjectLength : policy.commit.maxSubjectLength = other.commit.maxSubjectLength
  rules : policy.rules = other.rules

variable {limit : Option Nat} {policy other : Policy}

theorem Policy.SameSets.entries (same : policy.SameSets other) (exemption : Exemption) :
    SameEntries (exemption.entries policy.scan) (exemption.entries other.scan) := by
  cases exemption with
  | governance => exact same.governanceFiles
  | test => exact same.testSuffixes
  | secret => exact same.secretExempt

section Classification

variable {first second : Classifier}

theorem Check.appliesTo_of_sameSets (same : policy.SameSets other)
    (read : Classifier.ofPolicy policy.scan limit = .ok first)
    (read' : Classifier.ofPolicy other.scan limit = .ok second) (check : Check) (path : String) :
    check.appliesTo second path = check.appliesTo first path := by
  rw [check.appliesTo_eq read, check.appliesTo_eq read', same.sourceExtension]
  simp only [(same.entries _).names_eq]

/-- Two classifiers pick the same files of a directory and of a list. -/
structure Classifier.PicksAs (first second : Classifier) : Prop where
  extensions : first.isScannableExtension = second.isScannableExtension
  excludedDirs : first.isExcludedDir = second.isExcludedDir

namespace Classifier

theorem picksAs_of_sameSets (same : policy.SameSets other)
    (read : Classifier.ofPolicy policy.scan limit = .ok first)
    (read' : Classifier.ofPolicy other.scan limit = .ok second) : second.PicksAs first := by
  have scan := (ofPolicy_eq_ok_iff.1 read).1
  have scan' := (ofPolicy_eq_ok_iff.1 read').1
  constructor
  · funext path
    rw [isScannableExtension, isScannableExtension, scan, scan', same.extensions.contains_eq]
  · funext name
    rw [isExcludedDir, isExcludedDir, scan, scan', same.excludedDirs.contains_eq]

namespace PicksAs

theorem isScannable_eq (picks : second.PicksAs first) (path : String) :
    second.isScannable path = first.isScannable path := by
  rw [isScannable, isScannable, isExcludedPath, isExcludedPath, picks.extensions,
    picks.excludedDirs]

theorem scannableEntries_eq (picks : second.PicksAs first) (depth : Nat) (directory : Directory) :
    directory.scannableEntries second depth = directory.scannableEntries first depth := by
  induction directory generalizing depth with
  | empty => rfl
  | file name content rest ih =>
      rw [Directory.scannableEntries, Directory.scannableEntries, ih, picks.extensions]
  | folder name inner rest ihInner ihRest =>
      rw [Directory.scannableEntries, Directory.scannableEntries, ihInner, ihRest,
        picks.excludedDirs]

theorem paths_eq (picks : second.PicksAs first) (source : FileSource)
    (versionControl : VersionControl) (directory : Directory) :
    source.paths second versionControl directory =
      source.paths first versionControl directory := by
  cases source with
  | staged => rfl
  | all =>
      rw [FileSource.paths, FileSource.paths, Directory.scannableFiles, Directory.scannableFiles,
        picks.scannableEntries_eq]
  | file path => rfl

end PicksAs

end Classifier

end Classification

namespace RuleSet

variable {rules rules' : RuleSet}

theorem isMatch_commitSubject_of_sameSets (same : policy.SameSets other)
    (reads : rules.Reads limit policy) (reads' : rules'.Reads limit other) (subject : Line) :
    rules'.commitSubject.isMatch subject = rules.commitSubject.isMatch subject := by
  rw [reads.commitSubject_eq, reads'.commitSubject_eq]
  have equivalent := CommitPolicy.equivalent_subjectExpression same.types same.scopes
  exact (equivalent.isMatch_eq subject).symm

end RuleSet

/-- The pattern for commit subjects is no matter of files. -/
theorem Check.findings_withSubject (check : Check) (auditor : Auditor) (subject : Pattern)
    (path : String) (lines : List Line) :
    check.findings { auditor with rules := { auditor.rules with commitSubject := subject } } path
        lines =
      check.findings auditor path lines := by
  cases check <;> rfl

/-- Of that pattern, a commit message depends on whether it matches the subject. -/
theorem CommitMessage.findings_withSubject {rules : RuleSet} {pattern : Pattern}
    {message : String}
    (same : pattern.isMatch (subject message) = rules.commitSubject.isMatch (subject message)) :
    findings { rules with commitSubject := pattern } message = findings rules message := by
  unfold findings formatFindings
  simp only [same]
  rfl

namespace Auditor

variable {auditor auditor' : Auditor}

/-- The auditors of the two policies differ in their classifiers and their subject patterns. -/
theorem eq_of_sameSets (same : policy.SameSets other) (read : ofPolicy policy limit = .ok auditor)
    (read' : ofPolicy other limit = .ok auditor') :
    auditor' =
      { auditor with
        rules := { auditor.rules with commitSubject := auditor'.rules.commitSubject }
        classifier := auditor'.classifier } := by
  rcases ofPolicy_eq_ok_iff.1 read with ⟨reads, _, length⟩
  rcases ofPolicy_eq_ok_iff.1 read' with ⟨reads', _, length'⟩
  have sameLength : auditor'.excerptLength = auditor.excerptLength := by
    rw [length, length', same.excerptLength]
  have sameRules := reads.eq_withSubject reads' same.rules.symm same.maxSubjectLength.symm
  rw [← sameRules, ← sameLength]

theorem textFindings_of_sameSets (same : policy.SameSets other)
    (read : ofPolicy policy limit = .ok auditor) (read' : ofPolicy other limit = .ok auditor')
    (path : String) (text : List Char) :
    auditor'.textFindings path text = auditor.textFindings path text := by
  have classified := (ofPolicy_eq_ok_iff.1 read).2.1
  have classified' := (ofPolicy_eq_ok_iff.1 read').2.1
  refine congrArg (List.flatMap · Check.all) (funext fun check => ?_)
  rw [eq_of_sameSets same read read']
  apply (check.findings_of_appliesTo_eq ?_ _).trans
  · exact check.findings_withSubject auditor _ path _
  · exact check.appliesTo_of_sameSets same classified classified' path

theorem messageFindings_of_sameSets (same : policy.SameSets other)
    (read : ofPolicy policy limit = .ok auditor) (read' : ofPolicy other limit = .ok auditor')
    (message : Option String) :
    auditor'.messageFindings message = auditor.messageFindings message := by
  have reads := (ofPolicy_eq_ok_iff.1 read).1
  have reads' := (ofPolicy_eq_ok_iff.1 read').1
  cases message with
  | none => rfl
  | some text =>
      rw [messageFindings, messageFindings,
        reads.eq_withSubject reads' same.rules.symm same.maxSubjectLength.symm]
      apply CommitMessage.findings_withSubject
      exact RuleSet.isMatch_commitSubject_of_sameSets same reads reads' _

theorem audit_of_sameSets (same : policy.SameSets other)
    (read : ofPolicy policy limit = .ok auditor) (read' : ofPolicy other limit = .ok auditor')
    (read? : String → Option Bytes) (paths : List String) (message : Option String) :
    auditor'.audit read? paths message = auditor.audit read? paths message := by
  have picks := Classifier.picksAs_of_sameSets same (ofPolicy_eq_ok_iff.1 read).2.1
    (ofPolicy_eq_ok_iff.1 read').2.1
  have scanned : auditor'.isScanned read? = auditor.isScanned read? := by
    funext path
    rw [isScanned, isScanned, picks.isScannable_eq]
  have contributes : auditor'.contribution read? = auditor.contribution read? := by
    funext path
    simp only [contribution, picks.isScannable_eq, fileFindings,
      textFindings_of_sameSets same read read']
  rw [audit_eq, audit_eq, scanned, contributes, messageFindings_of_sameSets same read read']

/--
Two policies whose lists differ in their order and in repeated entries only list the same
files, and the audits of these have the same result. So they have the same reports and the
same exit status, and leave the same behind.
-/
theorem audit_sameSets (same : policy.SameSets other)
    (read : ofPolicy policy limit = .ok auditor) (read' : ofPolicy other limit = .ok auditor')
    (source : FileSource) (versionControl : VersionControl) (directory : Directory)
    (message : Option String) :
    let paths := source.paths auditor.classifier versionControl directory
    let paths' := source.paths auditor'.classifier versionControl directory
    let result := auditor.audit directory.content? paths message
    let result' := auditor'.audit directory.content? paths' message
    paths' = paths ∧ result' = result ∧ Report.text result' = Report.text result ∧
      Report.markdown result' = Report.markdown result ∧ Report.json result' = Report.json result ∧
      result'.exitCode = result.exitCode ∧
      ∀ settings, Run.report settings result' directory = Run.report settings result directory := by
  intro paths paths' result result'
  have picks := Classifier.picksAs_of_sameSets same (ofPolicy_eq_ok_iff.1 read).2.1
    (ofPolicy_eq_ok_iff.1 read').2.1
  have listed : paths' = paths := picks.paths_eq source versionControl directory
  have audited : result' = result := by
    simp only [result', result, listed]
    exact audit_of_sameSets same read read' _ _ _
  rw [audited]
  exact ⟨listed, rfl, rfl, rfl, rfl, rfl, fun _ => rfl⟩

/-- A policy with two entries in each list. -/
def orderedPolicy : Policy where
  scan :=
    { governanceFiles := ["A.md", "B.md"]
      excludedDirs := [".git", ".build"]
      extensions := ["swift", "md"]
      testSuffixes := ["Tests.swift", "TestCase.swift"]
      secretExempt := ["docs/**", "keys/**"] }
  commit := { types := ["fix", "feat"], scopes := ["app", "a|b"] }

/-- The same policy with every list reversed and with its last entry twice. -/
def reorderedPolicy : Policy where
  scan :=
    { governanceFiles := ["B.md", "A.md", "B.md"]
      excludedDirs := [".build", ".git", ".build"]
      extensions := ["md", "swift", "md"]
      testSuffixes := ["TestCase.swift", "Tests.swift", "TestCase.swift"]
      secretExempt := ["keys/**", "docs/**", "keys/**"] }
  commit := { types := ["feat", "fix", "feat"], scopes := ["a|b", "app", "a|b"] }

/-- A policy can be read if its globs only fix the beginning of a path and its subjects fit. -/
theorem exists_ofPolicy_of_texts
    (texts : ∀ text ∈ policy.scan.secretExempt,
      ((Glob.parse? text.toList).any fun glob => glob.form == .text) = true)
    (unextended : policy.rules.extraForbiddenPhrases = [])
    (roomy : policy.commit.subjectExpression.plan.isRoomy Pattern.sizeLimit false = true) :
    ∃ auditor, ofPolicy policy = .ok auditor := by
  have fits : policy.commit.subjectExpression.fits (some Pattern.sizeLimit) = true :=
    Pattern.Plan.fits_of_isRoomy roomy
  have readable : ∀ text ∈ policy.scan.secretExempt, ∃ glob,
      Glob.parse? text.toList = some glob ∧ glob.form = .text := by
    intro text member
    rcases (Option.any_eq_true _ _).1 (texts text member) with ⟨glob, parsed, form⟩
    exact ⟨glob, parsed, eq_of_beq form⟩
  rcases exists_forall₂ readable with ⟨globs, related⟩
  have forms : ∀ glob ∈ globs, glob.form = .text := by
    intro glob member
    rcases exists_of_mem_left related.flip member with ⟨_, _, _, form⟩
    exact form
  have buildable : Glob.areBuildable (some Pattern.sizeLimit) globs = true := by
    have none {form : GlobForm} (different : form ≠ .text) :
        globs.filter (·.form == form) = [] := by
      rw [List.filter_eq_nil_iff]
      intro glob member same
      exact different ((eq_of_beq same).symm.trans (forms glob member))
    have empty : Pattern.Plan.allFit Pattern.sizeLimit true [] = true := by decide +kernel
    simp [Glob.areBuildable, none, empty]
  rcases RuleSet.exists_ofPolicy_iff.2 ⟨by simp [unextended], fits⟩ with ⟨rules, reads⟩
  exact ⟨⟨rules, ⟨policy.scan, globs⟩, policy.scan.excerptLength⟩, ofPolicy_eq_ok_iff.2
    ⟨RuleSet.ofPolicy_eq_ok_iff.1 reads, Classifier.ofPolicy_eq_ok_iff.2
      ⟨rfl, related.imp fun _ _ parsed => parsed.1, buildable⟩, rfl⟩⟩

theorem audit_sameSets_reordered :
    orderedPolicy.SameSets reorderedPolicy ∧
      ∃ auditor auditor', ofPolicy orderedPolicy = .ok auditor ∧
        ofPolicy reorderedPolicy = .ok auditor' ∧
        let directory : Directory :=
          .folder ".git" (.file "c.md" [] .empty) (.file "a.swift" (Utf8.encode "b!".toList) .empty)
        let paths := FileSource.all.paths auditor.classifier {} directory
        let paths' := FileSource.all.paths auditor'.classifier {} directory
        paths' = paths ∧
          auditor'.audit directory.content? paths' (some "fix(a|b): one") =
            auditor.audit directory.content? paths (some "fix(a|b): one") := by
  have pair {first second : String} : SameEntries [first, second] [second, first, second] := by
    intro entry
    simp only [List.mem_cons, List.not_mem_nil, or_false]
    tauto
  have same : orderedPolicy.SameSets reorderedPolicy :=
    ⟨pair, pair, pair, rfl, pair, pair, rfl, pair, pair, rfl, rfl⟩
  rcases @exists_ofPolicy_of_texts orderedPolicy (by decide +kernel) rfl
    (by decide +kernel) with ⟨auditor, read⟩
  rcases @exists_ofPolicy_of_texts reorderedPolicy (by decide +kernel) rfl
    (by decide +kernel) with ⟨auditor', read'⟩
  have audited := audit_sameSets same read read' .all {}
    (.folder ".git" (.file "c.md" [] .empty) (.file "a.swift" (Utf8.encode "b!".toList) .empty))
    (some "fix(a|b): one")
  exact ⟨same, auditor, auditor', read, read', audited.1, audited.2.1⟩

end Auditor

end Precommit
