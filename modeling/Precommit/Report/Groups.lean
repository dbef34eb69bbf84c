import Precommit.Finding

/-!
# Grouping findings

Reports list findings under a heading for each check. The groups come in the order in
which their first findings were found, and the findings of a group keep their order.
-/

namespace Precommit

namespace Finding

/-- The heading under which a finding is reported. -/
def heading (finding : Finding) : String :=
  "[" ++ finding.label.id ++ "] " ++ finding.label.name

end Finding

namespace Report

/-- Findings under their heading. -/
abbrev Group := String × List Finding

/-- Add a finding to its group, which is opened at the end if it is new. -/
def addToGroups (groups : List Group) (finding : Finding) : List Group :=
  match groups with
  | [] => [(finding.heading, [finding])]
  | (heading, members) :: rest =>
      if heading == finding.heading then (heading, members ++ [finding]) :: rest
      else (heading, members) :: addToGroups rest finding

def groups (findings : List Finding) : List Group :=
  findings.foldl addToGroups []

end Report

end Precommit
