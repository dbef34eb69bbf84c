import Precommit.Proofs.Audit.Assembly
import Precommit.Proofs.CommandLine
import Precommit.Proofs.Directory
import Precommit.Proofs.Text.Utf8
import Precommit.Proofs.Toml.Document
import Precommit.Run

/-!
# The outcome of a run

Whatever the arguments and the surroundings are, a run comes to one of three ends: the
arguments stop it, the policy is at fault, or the report is printed. What can be at
fault with a policy is listed once; each of these faults ends the run before anything
is printed or written, and without them there is always a report.
-/

namespace Precommit

open Pattern

variable {directory : Directory} {path : String}

namespace Report

/-- The text of the output file, in one of the two forms. -/
def fileText (path : String) (result : AuditResult) : String :=
  if hasEnding ".json" path then json result else markdown result

theorem forPath?_eq_some (supported : isOutputPath path = true) (result : AuditResult) :
    forPath? path result = some (fileText path result) := by
  unfold forPath? fileText
  cases ending : hasEnding ".json" path with
  | true => rfl
  | false =>
      have markdownEnding : hasEnding ".md" path = true := by
        simpa [isOutputPath, ending] using supported
      simp [markdownEnding]

theorem write_eq (supported : isOutputPath path = true) (result : AuditResult)
    (directory : Directory) :
    write path result directory =
      match directory.store? path (Utf8.encode (fileText path result).toList) with
      | none => .error (.unwritable path)
      | some after => .ok after := by
  cases stored : directory.store? path (Utf8.encode (fileText path result).toList) with
  | none => simp only [write, forPath?_eq_some supported, stored]
  | some after => simp only [write, forPath?_eq_some supported, stored]

end Report

namespace Run

/-- What keeps a run from its audit. -/
inductive Fault (directory : Directory) (path : String) : Prop
  /-- The policy path leads to something that is not a file. -/
  | unreadable {inner : Directory} (found : directory.lookup? path = some (.folder inner))
  /-- The policy file is not a text. -/
  | undecodable {content : Bytes} (found : directory.lookup? path = some (.file content))
      (broken : Utf8.decode? content = none)
  /-- The policy file is a text, but not a policy. -/
  | malformed {content : Bytes} {text : List Char}
      (found : directory.lookup? path = some (.file content))
      (decoded : Utf8.decode? content = some text) (spoiled : Policy.ofText? text = none)
  /-- A phrase that the policy adds is not a pattern. -/
  | phrase {policy : Policy} {phrase : String} (loaded : Policy.load directory path = .ok policy)
      (listed : phrase ∈ policy.rules.extraForbiddenPhrases)
      (invalid : compile? (some sizeLimit) { caseless := true } phrase.toList = none)
  /-- The pattern for the types and scopes of the policy is too large. -/
  | subject {policy : Policy} (loaded : Policy.load directory path = .ok policy)
      (tooLarge : policy.commit.subjectExpression.fits (some sizeLimit) = false)
  /-- A glob of the policy cannot be read. -/
  | glob {policy : Policy} {glob : String} (loaded : Policy.load directory path = .ok policy)
      (listed : glob ∈ policy.scan.secretExempt) (invalid : Glob.parse? glob.toList = none)
  /-- The globs of the policy can be read, but are too much together. -/
  | globs {policy : Policy} {globs : List Glob} (loaded : Policy.load directory path = .ok policy)
      (read : List.Forall₂ (fun text glob => Glob.parse? text.toList = some glob)
        policy.scan.secretExempt globs)
      (tooLarge : Glob.areBuildable (some sizeLimit) globs = false)

/-- A policy at fault leads to no auditor. -/
theorem Fault.not_prepare {settings : CommandLine.Settings}
    (fault : Fault directory settings.policyPath) (auditor : Auditor) :
    prepare settings directory ≠ .ok auditor := by
  intro prepared
  rcases bind_eq_ok_iff.1 prepared with ⟨policy, loaded, read⟩
  rcases Auditor.ofPolicy_eq_ok_iff.1 read with ⟨reads, classified, _⟩
  have rules := RuleSet.exists_ofPolicy_iff.1 ⟨_, RuleSet.ofPolicy_eq_ok_iff.2 reads⟩
  rcases Classifier.ofPolicy_eq_ok_iff.1 classified with ⟨_, globs, buildable⟩
  cases fault with
  | unreadable found =>
      rw [Policy.load, found] at loaded
      cases loaded
  | undecodable found broken =>
      simp only [Policy.load, found, Policy.ofEntry, broken] at loaded
      cases loaded
  | malformed found decoded spoiled =>
      simp only [Policy.load, found, Policy.ofEntry, decoded, spoiled] at loaded
      cases loaded
  | phrase loaded' listed invalid =>
      rcases Except.ok.inj (loaded.symm.trans loaded') with rfl
      rcases rules.1 _ listed with ⟨pattern, compiled⟩
      rw [invalid] at compiled
      cases compiled
  | subject loaded' tooLarge =>
      rcases Except.ok.inj (loaded.symm.trans loaded') with rfl
      rw [rules.2] at tooLarge
      cases tooLarge
  | glob loaded' listed invalid =>
      rcases Except.ok.inj (loaded.symm.trans loaded') with rfl
      rcases exists_of_mem_left globs listed with ⟨glob, _, parsed⟩
      rw [invalid] at parsed
      cases parsed
  | globs loaded' read tooLarge =>
      rcases Except.ok.inj (loaded.symm.trans loaded') with rfl
      have unique : Relator.RightUnique fun (text : String) (glob : Glob) =>
          Glob.parse? text.toList = some glob := by
        intro text first second parsed parsed'
        exact Option.some_inj.1 (parsed.symm.trans parsed')
      rw [unique.forall₂ read globs, buildable] at tooLarge
      cases tooLarge

theorem exists_load_of_not_fault (sound : ¬Fault directory path) :
    ∃ policy, Policy.load directory path = .ok policy := by
  cases found : directory.lookup? path with
  | none => exact ⟨{}, by rw [Policy.load, found, Policy.ofEntry]⟩
  | some entry =>
      cases entry with
      | folder inner => exact absurd (Fault.unreadable found) sound
      | file content =>
          cases decoded : Utf8.decode? content with
          | none => exact absurd (Fault.undecodable found decoded) sound
          | some text =>
              cases read : Policy.ofText? text with
              | none => exact absurd (Fault.malformed found decoded read) sound
              | some policy =>
                  refine ⟨policy, ?_⟩
                  simp only [Policy.load, found, Policy.ofEntry, decoded, read]

/-- A policy without a fault leads to an auditor. -/
theorem exists_auditor_of_not_fault (sound : ¬Fault directory path) :
    ∃ policy auditor, Policy.load directory path = .ok policy ∧
      Auditor.ofPolicy policy = .ok auditor := by
  rcases exists_load_of_not_fault sound with ⟨policy, loaded⟩
  have added : ∀ phrase ∈ policy.rules.extraForbiddenPhrases, ∃ pattern,
      compile? (some sizeLimit) { caseless := true } phrase.toList = some pattern := by
    intro phrase listed
    apply Option.ne_none_iff_exists'.1
    intro invalid
    exact sound (.phrase loaded listed invalid)
  have subject : policy.commit.subjectExpression.fits (some sizeLimit) = true := by
    rw [← Bool.not_eq_false]
    intro tooLarge
    exact sound (.subject loaded tooLarge)
  have readable : ∀ text ∈ policy.scan.secretExempt, ∃ glob,
      Glob.parse? text.toList = some glob := by
    intro text listed
    apply Option.ne_none_iff_exists'.1
    intro invalid
    exact sound (.glob loaded listed invalid)
  rcases RuleSet.exists_ofPolicy_iff.2 ⟨added, subject⟩ with ⟨rules, reads⟩
  rcases exists_forall₂ readable with ⟨globs, read⟩
  have buildable : Glob.areBuildable (some sizeLimit) globs = true := by
    rw [← Bool.not_eq_false]
    intro tooLarge
    exact sound (.globs loaded read tooLarge)
  refine ⟨policy, ⟨rules, ⟨policy.scan, globs⟩, policy.scan.excerptLength⟩, loaded, ?_⟩
  exact Auditor.ofPolicy_eq_ok_iff.2 ⟨RuleSet.ofPolicy_eq_ok_iff.1 reads,
    Classifier.ofPolicy_eq_ok_iff.2 ⟨rfl, read, buildable⟩, rfl⟩

/-- What a run leaves behind that has printed its report. -/
structure Reported (settings : CommandLine.Settings) (result : AuditResult)
    (before : Directory) (outcome : RunOutcome) : Prop where
  output : outcome.output = Report.text result ++ "\n"
  exitCode_le : outcome.exitCode ≤ 1
  exitCode_eq_zero_iff :
    outcome.exitCode = 0 ↔ result.findings = [] ∧ ∀ path, settings.outputPath = some path →
      ∃ after, Report.write path result before = .ok after
  /-- Without an output path nothing is written. -/
  unasked : settings.outputPath = none → outcome.directory = before
  /-- If the output file cannot be written, that is not for want of a form of report. -/
  unwritten : ∀ path error, settings.outputPath = some path →
    Report.write path result before = .error error →
      error = .unwritable path ∧ outcome.directory = before
  /-- If the output file is written, nothing else changes. -/
  written : ∀ path after, settings.outputPath = some path →
    Report.write path result before = .ok after →
      outcome.directory = after ∧
      after.content? path = some (Utf8.encode (Report.fileText path result).toList) ∧
      (Report.hasEnding ".json" path = true ∨ Report.hasEnding ".md" path = true) ∧
      (∀ other, after.locate? other = before.locate? other) ∧
      ∀ other, before.locate? other ≠ before.locate? path →
        after.content? other = before.content? other

variable {settings : CommandLine.Settings}

theorem report_cases
    (supported : ∀ path, settings.outputPath = some path → Report.isOutputPath path = true)
    (result : AuditResult) (before : Directory) :
    (settings.outputPath = none ∧
      report settings result before =
        ⟨result.exitCode, Report.text result ++ "\n", before⟩) ∨
    (∃ path, settings.outputPath = some path ∧
      Report.write path result before = .error (.unwritable path) ∧
      report settings result before = ⟨1, Report.text result ++ "\n", before⟩) ∨
    ∃ path after, settings.outputPath = some path ∧
      before.store? path (Utf8.encode (Report.fileText path result).toList) = some after ∧
      Report.write path result before = .ok after ∧
      report settings result before =
        ⟨result.exitCode, Report.text result ++ "\n", after⟩ := by
  cases asked : settings.outputPath with
  | none =>
      left
      refine ⟨rfl, ?_⟩
      simp only [report, asked]
  | some path =>
      right
      have written := Report.write_eq (supported path asked) result before
      cases stored : before.store? path (Utf8.encode (Report.fileText path result).toList) with
      | none =>
          rw [stored] at written
          refine Or.inl ⟨path, rfl, written, ?_⟩
          simp only [report, asked, written]
      | some after =>
          rw [stored] at written
          refine Or.inr ⟨path, after, rfl, stored, written, ?_⟩
          simp only [report, asked, written]

theorem reported_report
    (supported : ∀ path, settings.outputPath = some path → Report.isOutputPath path = true)
    (result : AuditResult) (before : Directory) :
    Reported settings result before (report settings result before) := by
  have exitCode_le : result.exitCode ≤ 1 := by
    unfold AuditResult.exitCode
    split <;> omega
  have exitCode_iff : result.exitCode = 0 ↔ result.findings = [] := by
    simp [AuditResult.exitCode, AuditResult.passed]
  rcases report_cases supported result before with
    ⟨unasked, outcome⟩ | ⟨path, asked, failed, outcome⟩ |
      ⟨path, after, asked, stored, written, outcome⟩
  · rw [outcome]
    refine ⟨rfl, exitCode_le, ?_, fun _ => rfl, ?_, ?_⟩
    · simp [exitCode_iff, unasked]
    · intro path error asked
      cases unasked.symm.trans asked
    · intro path after asked
      cases unasked.symm.trans asked
  · rw [outcome]
    refine ⟨rfl, Nat.le_refl 1, ?_, fun _ => rfl, ?_, ?_⟩
    · simp [asked, failed]
    · intro path' error asked' failed'
      rcases Option.some_inj.1 (asked.symm.trans asked') with rfl
      cases failed.symm.trans failed'
      exact ⟨rfl, rfl⟩
    · intro path' after asked' written
      rcases Option.some_inj.1 (asked.symm.trans asked') with rfl
      cases failed.symm.trans written
  · rw [outcome]
    refine ⟨rfl, exitCode_le, ?_, ?_, ?_, ?_⟩
    · simp [exitCode_iff, asked, written]
    · intro unasked
      cases unasked.symm.trans asked
    · intro path' error asked' failed
      rcases Option.some_inj.1 (asked.symm.trans asked') with rfl
      cases written.symm.trans failed
    · intro path' after' asked' written'
      rcases Option.some_inj.1 (asked.symm.trans asked') with rfl
      cases written.symm.trans written'
      rcases Directory.store?_spec stored with ⟨content, places, others⟩
      have ending := supported path asked
      rw [Report.isOutputPath, Bool.or_eq_true, or_comm] at ending
      exact ⟨rfl, content, ending, places, others⟩

theorem withSettings_of_fault {surroundings : Surroundings}
    (fault : Fault surroundings.directory settings.policyPath) :
    withSettings settings surroundings = ⟨1, "", surroundings.directory⟩ := by
  cases prepared : prepare settings surroundings.directory with
  | error error => simp only [withSettings, prepared]
  | ok auditor => exact absurd prepared (fault.not_prepare auditor)

/-- A policy file that names one type of commits and nothing else. -/
def typeFile (type : List Char) : List Char :=
  Toml.singletonDocument ['c', 'o', 'm', 'm', 'i', 't'] ['t', 'y', 'p', 'e', 's'] type

/-- A directory with nothing but a policy file that names one type of commits. -/
def typeDirectory (type : List Char) : Directory :=
  .file CommandLine.defaultPolicyPath (Utf8.encode (typeFile type)) .empty

variable {type : List Char}

theorem load_typeDirectory (plain : type.all Toml.isPlainCharacter = true) :
    Policy.load (typeDirectory type) CommandLine.defaultPolicyPath =
      .ok { commit := { types := [String.ofList type] } } := by
  have located : (typeDirectory type).locate? CommandLine.defaultPolicyPath =
      some (.inside [CommandLine.defaultPolicyPath]) := rfl
  have found : (typeDirectory type).lookup? CommandLine.defaultPolicyPath =
      some (.file (Utf8.encode (typeFile type))) := by
    rw [Directory.lookup?, located]
    simp [typeDirectory, Directory.entryAt?, Directory.find?]
  have read : Policy.ofText? (typeFile type) =
      some { commit := { types := [String.ofList type] } } := by
    rw [Policy.ofText?, typeFile, Toml.parse?_singletonDocument (by decide) (by decide) plain]
    rfl
  simp only [Policy.load, found, Policy.ofEntry, Utf8.decode?_encode, read]

/-- A type of commits that is long enough is a fault of the policy. -/
theorem fault_of_long_type (plain : type.all Toml.isPlainCharacter = true)
    (long : sizeLimit < 32 * type.length) :
    Fault (typeDirectory type) CommandLine.defaultPolicyPath := by
  have large : sizeLimit < 32 * (Utf8.encode (String.ofList type).toList).length := by
    have encoded := Utf8.length_le_length_encode type
    rw [String.toList_ofList]
    omega
  apply Fault.subject (load_typeDirectory plain)
  exact CommitPolicy.not_fits_subjectExpression rfl large

end Run

/--
A run ends in one of three ways. If the arguments stop it, or if the policy is at fault,
nothing is changed and, but for a version or help that was asked for, nothing is printed.
Otherwise the report is printed, and written if that was asked for.
-/
theorem run_outcome (arguments : List String) (surroundings : Surroundings) :
    match CommandLine.parse arguments surroundings.logLevel with
    | .error stop =>
        (run arguments surroundings).directory = surroundings.directory ∧
        if stop.isUsageError then
          (run arguments surroundings).exitCode = 2 ∧ (run arguments surroundings).output = ""
        else (run arguments surroundings).exitCode = 0
    | .ok settings =>
        (Run.Fault surroundings.directory settings.policyPath →
          run arguments surroundings = ⟨1, "", surroundings.directory⟩) ∧
        (¬Run.Fault surroundings.directory settings.policyPath →
          ∃ policy auditor,
            Policy.load surroundings.directory settings.policyPath = .ok policy ∧
            Auditor.ofPolicy policy = .ok auditor ∧
            Run.Reported settings
              (auditor.audit surroundings.directory.content?
                (settings.source.paths auditor.classifier surroundings.versionControl
                  surroundings.directory)
                settings.commitMessage)
              surroundings.directory (run arguments surroundings)) := by
  cases parsed : CommandLine.parse arguments surroundings.logLevel with
  | error stop =>
      simp only [run, parsed]
      refine ⟨trivial, ?_⟩
      cases stop <;> simp [CommandLine.Stop.isUsageError]
  | ok settings =>
      have run_eq : run arguments surroundings = Run.withSettings settings surroundings := by
        simp only [run, parsed]
      simp only [run_eq]
      constructor
      · exact Run.withSettings_of_fault
      · intro sound
        rcases Run.exists_auditor_of_not_fault sound with ⟨policy, auditor, loaded, read⟩
        refine ⟨policy, auditor, loaded, read, ?_⟩
        have prepared : Run.prepare settings surroundings.directory = .ok auditor :=
          bind_eq_ok_iff.2 ⟨policy, loaded, read⟩
        simp only [Run.withSettings, prepared]
        apply Run.reported_report
        intro path asked
        exact CommandLine.isOutputPath_of_parse parsed asked

/--
No report is printed if the only type of commits has 400000 letters, though the policy
can be read, adds no phrases, and has globs that are all in order.
-/
theorem run_long_type :
    ∃ settings policy classifier,
      CommandLine.parse ["--file", "x"] none = .ok settings ∧
      Policy.load (Run.typeDirectory (List.replicate 400000 'a')) settings.policyPath =
        .ok policy ∧
      policy.rules.extraForbiddenPhrases = [] ∧
      Classifier.ofPolicy policy.scan = .ok classifier ∧
      run ["--file", "x"] { directory := Run.typeDirectory (List.replicate 400000 'a') } =
        ⟨1, "", Run.typeDirectory (List.replicate 400000 'a')⟩ ∧
      ∀ result, "" ≠ Report.text result ++ "\n" := by
  have plain : ∀ count, (List.replicate count 'a').all Toml.isPlainCharacter = true := by
    intro count
    rw [List.all_eq_true]
    intro character member
    rw [List.eq_of_mem_replicate member]
    decide
  have plain := plain 400000
  have long : sizeLimit < 32 * (List.replicate 400000 'a').length := by
    rw [List.length_replicate]
    decide
  generalize List.replicate 400000 'a' = type at plain long
  have parsed : CommandLine.parse ["--file", "x"] none =
      .ok ⟨.file "x", none, CommandLine.defaultPolicyPath, none, "warn"⟩ := by
    decide +kernel
  rcases Classifier.exists_ofPolicy_builtin with ⟨classifier, classified⟩
  refine ⟨_, _, classifier, parsed, Run.load_typeDirectory plain, rfl, classified, ?_, ?_⟩
  · simp only [run, parsed]
    exact Run.withSettings_of_fault (Run.fault_of_long_type plain long)
  · intro result same
    have ended := congrArg String.toList same
    simp [String.toList_append] at ended

end Precommit
