import Mathlib.Data.List.Flatten
import Precommit.Audit

/-!
# Independence of files

A listed file contributes its findings and its count to an audit whatever the rest of
the list holds. The loop that carries both from file to file adds nothing of its own,
so the result of a list is put together from the results of its parts.
-/

namespace Precommit

namespace Auditor

variable {auditor : Auditor} {read? : String → Option Bytes}

/-- Whether a listed path is scanned. -/
def isScanned (auditor : Auditor) (read? : String → Option Bytes) (path : String) : Bool :=
  auditor.classifier.isScannable path && (read? path).isSome

/-- The findings that a listed path contributes. -/
def contribution (auditor : Auditor) (read? : String → Option Bytes) (path : String) :
    List Finding :=
  if auditor.classifier.isScannable path then
    match read? path with
    | some content => auditor.fileFindings path content
    | none => []
  else []

/-- The result so far after one more listed path. -/
def scanNext (auditor : Auditor) (read? : String → Option Bytes) (result : AuditResult)
    (path : String) : AuditResult :=
  if auditor.classifier.isScannable path then
    match read? path with
    | some content =>
        { filesScanned := result.filesScanned + 1
          findings := result.findings ++ auditor.fileFindings path content }
    | none => result
  else result

theorem readable_cons (path : String) (rest : List String) :
    auditor.readable read? (path :: rest) =
      (if auditor.classifier.isScannable path then
        match read? path with
        | some content => [(path, content)]
        | none => []
      else []) ++ auditor.readable read? rest := by
  cases scannable : auditor.classifier.isScannable path with
  | false => simp [readable, scannable]
  | true => cases found : read? path <;> simp [readable, scannable, found]

theorem length_readable (paths : List String) :
    (auditor.readable read? paths).length = paths.countP (auditor.isScanned read?) := by
  induction paths with
  | nil => rfl
  | cons path rest ih =>
      rw [readable_cons, List.length_append, ih, List.countP_cons, Nat.add_comm]
      cases scannable : auditor.classifier.isScannable path with
      | false => simp [isScanned, scannable]
      | true => cases found : read? path <;> simp [isScanned, scannable, found]

theorem flatMap_readable (paths : List String) :
    (auditor.readable read? paths).flatMap
        (fun (path, content) => auditor.fileFindings path content) =
      paths.flatMap (auditor.contribution read?) := by
  induction paths with
  | nil => rfl
  | cons path rest ih =>
      rw [readable_cons, List.flatMap_append, ih, List.flatMap_cons]
      cases scannable : auditor.classifier.isScannable path with
      | false => simp [contribution, scannable]
      | true => cases found : read? path <;> simp [contribution, scannable, found]

/-- An audit path by path, followed by the findings in the commit message. -/
theorem audit_eq (paths : List String) (message : Option String) :
    auditor.audit read? paths message =
      { filesScanned := paths.countP (auditor.isScanned read?)
        findings :=
          paths.flatMap (auditor.contribution read?) ++ auditor.messageFindings message } := by
  rw [← length_readable, ← flatMap_readable]
  rfl

theorem audit_none_eq (paths : List String) :
    auditor.audit read? paths none =
      { filesScanned := paths.countP (auditor.isScanned read?)
        findings := paths.flatMap (auditor.contribution read?) } := by
  rw [audit_eq]
  simp only [messageFindings, List.append_nil]

/-- What one turn of the loop adds does not depend on what was found before. -/
theorem scanNext_eq (result : AuditResult) (path : String) :
    auditor.scanNext read? result path =
      { filesScanned := result.filesScanned + [path].countP (auditor.isScanned read?)
        findings := result.findings ++ auditor.contribution read? path } := by
  cases scannable : auditor.classifier.isScannable path with
  | false => simp [scanNext, isScanned, contribution, scannable]
  | true =>
      cases found : read? path <;> simp [scanNext, isScanned, contribution, scannable, found]

/-- The loop over the listed files adds their audit to whatever it starts from. -/
theorem foldl_scanNext_eq (result : AuditResult) (paths : List String) :
    paths.foldl (auditor.scanNext read?) result =
      { filesScanned := result.filesScanned + (auditor.audit read? paths none).filesScanned
        findings := result.findings ++ (auditor.audit read? paths none).findings } := by
  rw [audit_none_eq]
  induction paths generalizing result with
  | nil => simp
  | cons path rest ih =>
      have counted : (path :: rest).countP (auditor.isScanned read?) =
          [path].countP (auditor.isScanned read?) + rest.countP (auditor.isScanned read?) := by
        rw [← List.countP_append, List.singleton_append]
      rw [List.foldl_cons, ih, scanNext_eq, counted, List.flatMap_cons]
      simp only [Nat.add_assoc, List.append_assoc]

theorem sublist_findings_audit {paths paths' : List String} (kept : paths.Sublist paths')
    (message : Option String) :
    (auditor.audit read? paths message).findings.Sublist
      (auditor.audit read? paths' message).findings := by
  rw [audit_eq, audit_eq, List.flatMap_def, List.flatMap_def]
  apply List.Sublist.append_right
  exact (kept.map _).flatten

theorem perm_findings_audit {paths paths' : List String} (permuted : paths.Perm paths') :
    (auditor.audit read? paths none).findings.Perm
      (auditor.audit read? paths' none).findings := by
  rw [audit_none_eq, audit_none_eq]
  exact permuted.flatMap_right _

/--
The audit of a list is put together from those of its parts, however the loop over its
files starts; the commit message only adds its own findings at the end. So a further path
anywhere takes no finding away, and another order of the paths only reorders findings.
-/
theorem audit_independent (auditor : Auditor) (read? : String → Option Bytes)
    (xs ys : List String) (message : String) :
    auditor.audit read? (xs ++ ys) none =
        { filesScanned :=
            (auditor.audit read? xs none).filesScanned +
              (auditor.audit read? ys none).filesScanned
          findings :=
            (auditor.audit read? xs none).findings ++
              (auditor.audit read? ys none).findings } ∧
      auditor.audit read? xs (some message) =
        { filesScanned := (auditor.audit read? xs none).filesScanned
          findings :=
            (auditor.audit read? xs none).findings ++
              CommitMessage.findings auditor.rules message } ∧
      (auditor.audit read? xs none).filesScanned =
        xs.countP (fun path => auditor.classifier.isScannable path && (read? path).isSome) ∧
      (∀ result : AuditResult, xs.foldl (auditor.scanNext read?) result =
        { filesScanned := result.filesScanned + (auditor.audit read? xs none).filesScanned
          findings := result.findings ++ (auditor.audit read? xs none).findings }) ∧
      (∀ path (asked : Option String),
        (auditor.audit read? (xs ++ ys) asked).findings.Sublist
          (auditor.audit read? (xs ++ path :: ys) asked).findings) ∧
      ∀ zs, xs.Perm zs →
        (auditor.audit read? xs none).findings.Perm
          (auditor.audit read? zs none).findings := by
  refine ⟨?_, ?_, ?_, fun result => foldl_scanNext_eq result xs, ?_,
    fun zs => perm_findings_audit⟩
  · simp only [audit_none_eq, List.countP_append, List.flatMap_append]
  · rw [audit_none_eq, audit_eq]
    rfl
  · rw [audit_none_eq]
    rfl
  · intro path asked
    apply sublist_findings_audit
    exact (List.sublist_cons_self path ys).append_left xs

end Auditor

end Precommit
