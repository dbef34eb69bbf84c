import Precommit.CommandLine
import Precommit.Proofs.Outcome

/-!
# Output paths of the command line

An output path is looked at when its option is taken, so the settings never name one
for which there is no form of report.
-/

namespace Precommit

namespace CommandLine

namespace Reader

variable {reader next : Reader} {name : OptionName} {value : String}

theorem take_eq_ok_iff :
    reader.take name value = .ok next ↔
      reader.given.lookup name = none ∧ (name = .output → Report.isOutputPath value = true) ∧
        next = { reader with given := (name, value) :: reader.given } := by
  unfold take value?
  cases found : reader.given.lookup name with
  | some earlier => simp
  | none =>
      by_cases supported : name = .output → Report.isOutputPath value = true
      · rw [if_neg (by simp), if_neg (by simpa using supported)]
        constructor
        · intro taken
          cases taken
          exact ⟨rfl, supported, rfl⟩
        · rintro ⟨_, _, rfl⟩
          rfl
      · rw [if_neg (by simp), if_pos (by simpa using supported)]
        simp [supported]

/-- All output paths taken so far have a form of report. -/
def HasReports (reader : Reader) : Prop :=
  ∀ value, (OptionName.output, value) ∈ reader.given → Report.isOutputPath value = true

theorem HasReports.take (reports : reader.HasReports) (taken : reader.take name value = .ok next) :
    next.HasReports := by
  rcases take_eq_ok_iff.1 taken with ⟨_, supported, rfl⟩
  intro path member
  rcases List.mem_cons.1 member with same | member
  · rcases Prod.mk.inj same with ⟨rfl, rfl⟩
    exact supported rfl
  · exact reports path member

theorem HasReports.settle (reports : reader.HasReports) (settled : reader.settle = .ok next) :
    next.HasReports := by
  unfold Reader.settle at settled
  split at settled
  · cases settled
    exact reports
  · cases settled
  · rename_i name value _
    have cleared : HasReports { reader with pending := none } := reports
    exact cleared.take settled

theorem HasReports.option (reports : reader.HasReports) {attached : Option String}
    (read : reader.option name attached = .ok next) : next.HasReports := by
  unfold Reader.option at read
  split at read
  · rcases bind_eq_ok_iff.1 read with ⟨settled, settle, taken⟩
    exact (reports.settle settle).take taken
  · rcases bind_eq_ok_iff.1 read with ⟨settled, settle, rest⟩
    rw [pure_eq_ok_iff] at rest
    have reports' := reports.settle settle
    rw [← rest]
    exact reports'
  · cases read
  · rcases bind_eq_ok_iff.1 read with ⟨settled, settle, rest⟩
    have reports' := reports.settle settle
    split at rest
    · cases rest
    · cases rest
    · exact reports'.take rest

/-- One more argument keeps to output paths with a form of report. -/
theorem HasReports.step (reports : reader.HasReports) {argument : String}
    (read : reader.step argument = .ok next) : next.HasReports := by
  unfold Reader.step at read
  split at read
  · cases read
  · split at read
    · cases read
      exact reports
    · simp only at read
      split at read
      · exact reports.option read
      · cases read
    · split at read
      · exact reports.option read
      · split at read
        · exact reports.option read
        · cases read
    · split at read
      · cases read
        exact reports
      · cases read

theorem HasReports.foldlM (reports : reader.HasReports) {arguments : List String}
    (read : arguments.foldlM Reader.step reader = .ok next) : next.HasReports := by
  induction arguments generalizing reader with
  | nil =>
      rw [List.foldlM_nil, pure_eq_ok_iff] at read
      rw [← read]
      exact reports
  | cons argument rest ih =>
      rw [List.foldlM_cons] at read
      rcases bind_eq_ok_iff.1 read with ⟨middle, step, read⟩
      exact ih (reports.step step) read

end Reader

/-- The settings name no output path for which there is no form of report. -/
theorem isOutputPath_of_parse {arguments : List String} {logLevel : Option String}
    {settings : Settings} (parsed : parse arguments logLevel = .ok settings) {path : String}
    (asked : settings.outputPath = some path) : Report.isOutputPath path = true := by
  simp only [parse, bind_eq_ok_iff, pure_eq_ok_iff] at parsed
  rcases parsed with ⟨reader, read, settled, settle, source, mode, rfl⟩
  have start : Reader.HasReports {} := fun _ member => by cases member
  have reports := (start.foldlM read).settle settle
  rcases List.lookup_eq_some_iff.1 asked with ⟨before, after, split, _⟩
  apply reports
  rw [split]
  exact List.mem_append_right before List.mem_cons_self

end CommandLine

end Precommit
