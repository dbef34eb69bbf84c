import Precommit.Proofs.Audit.Independence
import Precommit.Proofs.Audit.TextFindings
import Precommit.Proofs.Subject

/-!
# Where findings come from

Equal findings may stand in a result more than once, as a path may be listed twice and
a line may break a rule at two places. So the order of a result and the absence of
repetitions are properties of origins: the place in the list of files, the check, the
line and the rule that a finding comes from. Those of the commit message come from a
place behind the list.
-/

namespace Precommit

/-- A finding of an audit comes from an origin. -/
inductive Arises (auditor : Auditor) (read? : String → Option Bytes) (paths : List String)
    (message : Option String) : Origin → Finding → Prop
  | file {origin : Origin} {finding : Finding} {path : String} {content : Bytes} {check : Check}
      (listed : paths[origin.candidate]? = some path)
      (scannable : auditor.classifier.isScannable path = true)
      (found : read? path = some content)
      (checks : Check.all[origin.check]? = some check)
      (line : origin.line = finding.line)
      (states : finding.States auditor path
        (Text.lines (Text.universalBreaks (Utf8.decodeLossy content))) check origin.rule) :
      Arises auditor read? paths message origin finding
  | commit {text : String} {position : Nat} {finding : Finding} {part : List Finding}
      (asked : message = some text)
      (tested : (CommitMessage.tests auditor.rules text)[position]? = some part)
      (member : finding ∈ part) :
      Arises auditor read? paths message ⟨paths.length, 0, 1, position⟩ finding

namespace Origin

theorem nodup_of_pairwise {origins : List Origin} (ascend : origins.Pairwise Before) :
    origins.Nodup := by
  apply ascend.imp
  rintro first second before rfl
  rw [before_iff] at before
  omega

end Origin

namespace Check

/-- The table of the check, if it has one. -/
def table? (check : Check) (rules : RuleSet) : Option RuleTable :=
  match check with
  | .protocolZero => some rules.forbiddenPhrases
  | .forceUnwrap => none
  | .debugArtifact => some rules.debugCalls
  | .bannedApi => some rules.bannedApis
  | .secretLeakage => some rules.secrets

/-- The check reports a line once at most. -/
def ReportsOnce (check : Check) (rules : RuleSet) : Prop :=
  ∀ table, check.table? rules = some table → table.mode = .first

end Check

variable {auditor : Auditor} {read? : String → Option Bytes} {paths : List String}
  {message : Option String}

theorem Breach.position_eq {path : String} {before : List Line} {line : Line} {check : Check}
    {position position' : Nat} {label label' : Label} {detail detail' : String}
    (once : check.ReportsOnce auditor.rules)
    (breach : Breach auditor path before line check position label detail)
    (breach' : Breach auditor path before line check position' label' detail') :
    position = position' := by
  cases breach with
  | phrase _ reports =>
      cases breach' with
      | phrase _ reports' => exact reports.position_eq reports' (once _ rfl)
  | unwrap =>
      cases breach' with
      | unwrap => rfl
  | call _ _ _ _ reports =>
      cases breach' with
      | call _ _ _ _ reports' => exact reports.position_eq reports' (once _ rfl)
  | api _ _ _ reports =>
      cases breach' with
      | api _ _ _ reports' => exact reports.position_eq reports' (once _ rfl)
  | secret _ _ _ reports =>
      cases breach' with
      | secret _ _ _ reports' => exact reports.position_eq reports' (once _ rfl)

theorem Finding.States.position_eq {path : String} {lines : List Line} {check : Check}
    {position position' : Nat} {finding finding' : Finding}
    (once : check.ReportsOnce auditor.rules)
    (states : finding.States auditor path lines check position)
    (states' : finding'.States auditor path lines check position')
    (sameLine : finding.line = finding'.line) : position = position' := by
  rcases states with ⟨_, before, line, after, split, number, breach⟩
  rcases states' with ⟨_, before', line', after', split', number', breach'⟩
  have lengths : before.length = before'.length := by omega
  rcases List.append_inj (split.symm.trans split') lengths with ⟨rfl, rest⟩
  rcases List.cons.inj rest with ⟨rfl, _⟩
  exact breach.position_eq once breach'

namespace Classifier

/-- The name of the commit message has no extension, so no file of that name is scanned. -/
theorem not_isScannable_commitFile (classifier : Classifier) :
    classifier.isScannable Finding.commitFile = false := by
  have none : Path.extension? Finding.commitFile = none := by decide +kernel
  simp [isScannable, isScannableExtension, none]

end Classifier

namespace Auditor

theorem ascending_contribution (labelled : auditor.rules.Labelled) (candidate : Nat)
    (path : String) :
    Ascending Origin.Before
      (fun origin finding => origin.candidate = candidate ∧
        auditor.classifier.isScannable path = true ∧
        ∃ content, read? path = some content ∧ origin.line = finding.line ∧
          ∃ check, Check.all[origin.check]? = some check ∧
            finding.States auditor path
              (Text.lines (Text.universalBreaks (Utf8.decodeLossy content))) check origin.rule)
      (auditor.contribution read? path) := by
  unfold contribution
  split
  · rename_i scannable
    split
    · rename_i content found
      apply (ascending_textFindings labelled (Utf8.decodeLossy content) candidate).imp
      rintro origin finding ⟨candidate_eq, line_eq, check, checks, states⟩
      exact ⟨candidate_eq, scannable, content, found, line_eq, check, checks, states⟩
    · exact .nil
  · exact .nil

theorem ascending_contributions (labelled : auditor.rules.Labelled) :
    Ascending Origin.Before
      (fun origin finding => origin.candidate < paths.length ∧
        Arises auditor read? paths message origin finding)
      (paths.flatMap (auditor.contribution read?)) := by
  apply (Ascending.flatMap _ _ _
    (fun index path _ => ascending_contribution labelled index path) ?_).imp
  · rintro origin finding
      ⟨index, path, listed, rfl, scannable, content, found, line_eq, check, checks, states⟩
    have bound := (List.getElem?_eq_some_iff.1 listed).1
    exact ⟨bound, .file listed scannable found checks line_eq states⟩
  · rintro index index' path path' first second finding finding' lt _ _
      ⟨candidate_eq, _⟩ ⟨candidate_eq', _⟩
    rw [Origin.before_iff]
    omega

theorem ascending_messageFindings :
    Ascending Origin.Before
      (fun origin finding => origin.candidate = paths.length ∧
        Arises auditor read? paths message origin finding)
      (auditor.messageFindings message) := by
  cases message with
  | none => exact .nil
  | some text =>
      apply CommitMessage.ascending_findings.retag fun position => ⟨paths.length, 0, 1, position⟩
      · rintro position finding ⟨part, tested, member⟩
        exact ⟨rfl, .commit rfl tested member⟩
      · intro first second lt
        simp [Origin.before_iff, lt]

theorem ascending_findings (labelled : auditor.rules.Labelled) :
    Ascending Origin.Before (Arises auditor read? paths message)
      (auditor.audit read? paths message).findings := by
  rw [audit_eq]
  have files : Ascending Origin.Before
      (fun origin finding => origin.candidate < paths.length ∧
        Arises auditor read? paths message origin finding) _ := ascending_contributions labelled
  have commit : Ascending Origin.Before
      (fun origin finding => origin.candidate = paths.length ∧
        Arises auditor read? paths message origin finding) _ := ascending_messageFindings
  refine (files.append commit ?_).imp ?_
  · rintro first second finding finding' ⟨bound, _⟩ ⟨behind, _⟩
    rw [Origin.before_iff]
    omega
  · rintro origin finding (⟨_, arises⟩ | ⟨_, arises⟩)
    · exact arises
    · exact arises

theorem isMarked_of_mem_messageFindings {finding : Finding}
    (member : finding ∈ auditor.messageFindings message) :
    CommitMessage.IsMarked finding := by
  cases message with
  | none => simp [messageFindings] at member
  | some text => exact CommitMessage.isMarked_of_mem member

theorem length_messageFindings_le : (auditor.messageFindings message).length ≤ 4 := by
  cases message with
  | none => exact Nat.zero_le 4
  | some text => exact CommitMessage.length_findings_le

theorem not_marked_of_mem_contributions (labelled : auditor.rules.Labelled) {finding : Finding}
    (member : finding ∈ paths.flatMap (auditor.contribution read?)) :
    finding.label.id ≠ Label.commitMessage.id ∧ finding.file ≠ Finding.commitFile := by
  rcases List.mem_flatMap.1 member with ⟨path, _, member⟩
  rcases (ascending_contribution labelled 0 path).exists_tag member with
    ⟨origin, _, scannable, content, _, _, check, _, file, before, line, after, _, _, breach⟩
  refine ⟨Check.id_ne_commitMessage _ breach.label_mem_labels, ?_⟩
  intro is_commitFile
  rw [← file, is_commitFile, Classifier.not_isScannable_commitFile] at scannable
  cases scannable

/-- A check that reports a line once has one origin there, whichever findings come from it. -/
theorem rule_eq_of_arises {first second : Origin} {finding finding' : Finding} {check : Check}
    (arises : Arises auditor read? paths message first finding)
    (arises' : Arises auditor read? paths message second finding')
    (isFile : first.candidate < paths.length) (checks : Check.all[first.check]? = some check)
    (once : check.ReportsOnce auditor.rules) (candidate_eq : first.candidate = second.candidate)
    (check_eq : first.check = second.check) (line_eq : first.line = second.line) :
    first = second := by
  cases arises with
  | commit => exact absurd isFile (Nat.lt_irrefl _)
  | file listed _ found checked number states =>
      cases arises' with
      | commit =>
          exact absurd isFile (by rw [candidate_eq]; exact Nat.lt_irrefl _)
      | file listed' _ found' checked' number' states' =>
          rw [candidate_eq, listed', Option.some_inj] at listed
          subst listed
          rw [found', Option.some_inj] at found
          subst found
          rw [checks, Option.some_inj] at checked
          subst checked
          rw [← check_eq, checks, Option.some_inj] at checked'
          subst checked'
          have rule_eq := states.position_eq once states' (by omega)
          rcases first with ⟨candidate, index, line, rule⟩
          rcases second with ⟨candidate', index', line', rule'⟩
          simp only at candidate_eq check_eq line_eq rule_eq
          rw [candidate_eq, check_eq, line_eq, rule_eq]

theorem exists_origins (labelled : auditor.rules.Labelled) :
    ∃ origins, List.Forall₂ (Arises auditor read? paths message) origins
        (auditor.audit read? paths message).findings ∧
      origins.Pairwise Origin.Before ∧ origins.Nodup ∧
      ∀ first ∈ origins, ∀ second ∈ origins, ∀ check,
        first.candidate < paths.length → Check.all[first.check]? = some check →
        check.ReportsOnce auditor.rules →
        first.candidate = second.candidate → first.check = second.check →
        first.line = second.line → first = second := by
  rcases ascending_findings labelled with ⟨origins, arise, ascend⟩
  refine ⟨origins, arise, ascend, Origin.nodup_of_pairwise ascend, ?_⟩
  intro first first_mem second second_mem check isFile checks once
  rcases Ascending.exists_item arise first_mem with ⟨finding, arises⟩
  rcases Ascending.exists_item arise second_mem with ⟨finding', arises'⟩
  exact rule_eq_of_arises arises arises' isFile checks once

theorem findings_eq_append (auditor : Auditor) (read? : String → Option Bytes)
    (paths : List String) (message : Option String) :
    (auditor.audit read? paths message).findings =
      paths.flatMap (auditor.contribution read?) ++ auditor.messageFindings message :=
  congrArg AuditResult.findings (audit_eq paths message)

/-- The findings in the commit message stand at the end. -/
theorem exists_files_commits (labelled : auditor.rules.Labelled) :
    ∃ files commits, (auditor.audit read? paths message).findings = files ++ commits ∧
      commits.length ≤ 4 ∧ (∀ finding ∈ files, finding.label.id ≠ "CC-001") ∧
      ∀ finding ∈ commits, finding.label.id = "CC-001" ∧ finding.line = 1 := by
  refine ⟨_, _, findings_eq_append auditor read? paths message, length_messageFindings_le, ?_, ?_⟩
  · intro finding member
    exact (not_marked_of_mem_contributions labelled member).1
  · intro finding member
    rcases isMarked_of_mem_messageFindings member with ⟨label, _, line⟩
    exact ⟨by rw [label]; rfl, line⟩

theorem file_eq_commit_iff (labelled : auditor.rules.Labelled) {finding : Finding}
    (member : finding ∈ (auditor.audit read? paths message).findings) :
    finding.file = "<commit>" ↔ finding.label.id = "CC-001" := by
  rw [findings_eq_append] at member
  rcases List.mem_append.1 member with member | member
  · rcases not_marked_of_mem_contributions labelled member with ⟨id_ne, file_ne⟩
    exact ⟨fun file => absurd file file_ne, fun id => absurd id id_ne⟩
  · rcases isMarked_of_mem_messageFindings member with ⟨label, file, _⟩
    exact ⟨fun _ => by rw [label]; rfl, fun _ => file⟩

/--
Every finding of an audit has an origin, and the origins ascend along the result, so none
occurs twice. A check that reports a line once has one origin for each line of a listed
file. The findings in the commit message are four at most, follow all others and are the
only ones that name `<commit>` as their file, whatever files are listed.
-/
theorem audit_provenance {limit : Option Nat} {policy : Policy} {built : Auditor}
    (read : ofPolicy policy limit = .ok built) (adjustments : Adjustments)
    (read? : String → Option Bytes) (paths : List String) (message : Option String) :
    let result := (built.adjust adjustments).audit read? paths message
    (∃ origins, List.Forall₂ (Arises (built.adjust adjustments) read? paths message) origins
        result.findings ∧
      origins.Pairwise Origin.Before ∧ origins.Nodup ∧
      ∀ first ∈ origins, ∀ second ∈ origins, ∀ check,
        first.candidate < paths.length → Check.all[first.check]? = some check →
        check.ReportsOnce (built.adjust adjustments).rules →
        first.candidate = second.candidate → first.check = second.check →
        first.line = second.line → first = second) ∧
    (∃ files commits, result.findings = files ++ commits ∧ commits.length ≤ 4 ∧
      (∀ finding ∈ files, finding.label.id ≠ "CC-001") ∧
      ∀ finding ∈ commits, finding.label.id = "CC-001" ∧ finding.line = 1) ∧
    ∀ finding ∈ result.findings, finding.file = "<commit>" ↔ finding.label.id = "CC-001" := by
  have labelled := labelled_adjust read adjustments
  refine ⟨exists_origins labelled, exists_files_commits labelled, ?_⟩
  intro finding member
  exact file_eq_commit_iff labelled member

/-- A file with findings of two checks is listed twice, and three tests of the message fail. -/
theorem audit_provenance_listed_twice :
    ∃ auditor, ofPolicy {} = .ok auditor ∧
      let read? : String → Option Bytes :=
        fun _ => some (Utf8.encode "print(a)\nlet b = c!".toList)
      let paths := ["A.swift", "A.swift"]
      let message := some "As an AI."
      let unwrap : Finding := ⟨.forceUnwrap, "A.swift", 2, "Force unwrap operator detected"⟩
      let call : Finding := ⟨.debugArtifact, "A.swift", 1, "Debug statement detected: print(a)"⟩
      let format := CommitMessage.finding
        "Does not match format: type(scope): description — got: As an AI."
      let period := CommitMessage.finding "Description must not end with a period"
      let phrase := CommitMessage.finding
        r"Contains forbidden attribution phrase: as\s+an\s+ai"
      let origins : List Origin :=
        [⟨0, 1, 2, 0⟩, ⟨0, 2, 1, 0⟩, ⟨1, 1, 2, 0⟩, ⟨1, 2, 1, 0⟩,
          ⟨2, 0, 1, 1⟩, ⟨2, 0, 1, 2⟩, ⟨2, 0, 1, 3⟩]
      let result := (auditor.adjust {}).audit read? paths message
      result.findings = [unwrap, call, unwrap, call, format, period, phrase] ∧
        List.Forall₂ (Arises (auditor.adjust {}) read? paths message) origins result.findings ∧
        origins.Pairwise Origin.Before ∧
        (∃ files commits, result.findings = files ++ commits ∧ commits.length ≤ 4 ∧
          (∀ finding ∈ files, finding.label.id ≠ "CC-001") ∧
          ∀ finding ∈ commits, finding.label.id = "CC-001" ∧ finding.line = 1) ∧
        ∀ finding ∈ result.findings,
          finding.file = "<commit>" ↔ finding.label.id = "CC-001" := by
  rcases exists_ofPolicy_builtin with ⟨auditor, read⟩
  obtain rfl := eq_assembled read
  refine ⟨assembled {}, read, ?_⟩
  intro read? paths message unwrap call format period phrase origins result
  let built := (assembled {}).adjust {}
  have file : built.contribution read? "A.swift" = [unwrap, call] := by decide +kernel
  have tests : CommitMessage.tests built.rules "As an AI." =
      [[], [format], [period], [phrase]] := by
    decide +kernel
  have findings : result.findings = [unwrap, call, unwrap, call, format, period, phrase] := by
    have commits : built.messageFindings message = [format, period, phrase] := by
      rw [messageFindings, CommitMessage.findings_eq_flatten, tests]
      rfl
    rw [findings_eq_append, commits, List.flatMap_cons, List.flatMap_singleton, file]
    rfl
  -- The findings have been evaluated; their origins are made from what the lines breach.
  have scannable : built.classifier.isScannable "A.swift" = true := by decide +kernel
  have isSource : built.classifier.isSourceFile "A.swift" = true := by decide +kernel
  have lines : Text.lines (Text.universalBreaks (Utf8.decodeLossy
      (Utf8.encode "print(a)\nlet b = c!".toList))) =
        ["print(a)".toList, "let b = c!".toList] := by
    decide +kernel
  have prints : (built.rules.debugCalls.rules[0]?).any (fun rule =>
      rule.isMatch "print(a)".toList && rule.message == "Debug statement detected") = true := by
    decide +kernel
  have unwraps (candidate : Nat) (listed : paths[candidate]? = some "A.swift") :
      Arises built read? paths message ⟨candidate, 1, 2, 0⟩ unwrap :=
    .file listed scannable rfl rfl rfl
      ⟨rfl, ["print(a)".toList], _, [], lines, rfl, .unwrap isSource (by decide +kernel)⟩
  have calls (candidate : Nat) (listed : paths[candidate]? = some "A.swift") :
      Arises built read? paths message ⟨candidate, 2, 1, 0⟩ call := by
    rcases (Option.any_eq_true _ _).1 prints with ⟨rule, first, applies⟩
    rw [Bool.and_eq_true, beq_iff_eq] at applies
    have detail : call.detail = rule.message ++ ": " ++
        String.ofList (Text.excerpt built.excerptLength (Text.trim "print(a)".toList)) := by
      rw [applies.2]
      decide +kernel
    refine .file listed scannable rfl rfl rfl ⟨rfl, [], _, _, lines, rfl, ?_⟩
    rw [detail]
    exact .call isSource (by decide +kernel) (by decide +kernel) Line.not_debugOpen_nil
      ⟨first, (rule.isMatch_iff _).1 applies.1, fun _ _ lt => absurd lt (Nat.not_lt_zero _)⟩
  have commits (position : Nat) (finding : Finding)
      (tested : [[], [format], [period], [phrase]][position]? = some [finding]) :
      Arises built read? paths message ⟨2, 0, 1, position⟩ finding :=
    .commit rfl (by rw [tests, tested]) (List.mem_singleton_self finding)
  refine ⟨findings, ?_, by simp [origins, Origin.before_iff], ?_⟩
  · rw [findings]
    exact .cons (unwraps 0 rfl) (.cons (calls 0 rfl) (.cons (unwraps 1 rfl) (.cons (calls 1 rfl)
      (.cons (commits 1 _ rfl) (.cons (commits 2 _ rfl) (.cons (commits 3 _ rfl) .nil))))))
  · exact (audit_provenance read {} read? paths message).2

end Auditor

end Precommit
