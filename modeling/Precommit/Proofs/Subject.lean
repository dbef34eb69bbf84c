import Precommit.CommitMessage
import Precommit.Proofs.Tagging

/-!
# The tests of a commit message

Each of the tests of a message has one finding at most, and all findings bear the
marks of a commit message.
-/

namespace Precommit

namespace CommitMessage

variable {rules : RuleSet} {message : String}

theorem findings_of_blank (blank : Text.trim message.toList = []) :
    findings rules message = [finding "Empty commit message"] := by
  rw [findings, blank]
  rfl

theorem findings_of_not_blank (notBlank : Text.trim message.toList ≠ []) :
    findings rules message =
      lengthFindings rules (subject message) ++ formatFindings rules (subject message) ++
        periodFindings (subject message) ++ phraseFindings rules (subject message) := by
  have nonempty : (Text.trim message.toList).isEmpty = false := List.isEmpty_eq_false_iff.2 notBlank
  rw [findings, nonempty]
  rfl

theorem phraseFindings_eq (rules : RuleSet) (subject : Line) :
    phraseFindings rules subject =
      (rules.forbiddenPhrases.firstMatch? subject).toList.map fun rule =>
        finding ("Contains forbidden attribution phrase: " ++ rule.source) := by
  unfold phraseFindings
  cases rules.forbiddenPhrases.firstMatch? subject <;> rfl

/-- What each test of the message finds, in the order of the tests. -/
def tests (rules : RuleSet) (message : String) : List (List Finding) :=
  if (Text.trim message.toList).isEmpty then [[finding "Empty commit message"]]
  else
    [lengthFindings rules (subject message), formatFindings rules (subject message),
      periodFindings (subject message), phraseFindings rules (subject message)]

theorem findings_eq_flatten : findings rules message = (tests rules message).flatten := by
  unfold findings tests
  split
  · rfl
  · simp [List.append_assoc]

/-- The finding bears the marks of a commit message. -/
def IsMarked (found : Finding) : Prop :=
  found.label = .commitMessage ∧ found.file = Finding.commitFile ∧ found.line = 1

/-- At most one finding, of a commit message. -/
def IsVerdict (found : List Finding) : Prop :=
  found = [] ∨ ∃ detail, found = [finding detail]

theorem isVerdict_of_mem_tests {found : List Finding} (member : found ∈ tests rules message) :
    IsVerdict found := by
  unfold tests at member
  split at member
  · rw [List.mem_singleton] at member
    exact .inr ⟨_, member⟩
  · simp only [List.mem_cons, List.not_mem_nil, or_false] at member
    rcases member with rfl | rfl | rfl | rfl
    · unfold lengthFindings
      split
      · exact .inr ⟨_, rfl⟩
      · exact .inl rfl
    · unfold formatFindings
      split
      · exact .inl rfl
      · exact .inr ⟨_, rfl⟩
    · unfold periodFindings
      split
      · exact .inr ⟨_, rfl⟩
      · exact .inl rfl
    · unfold phraseFindings
      split
      · exact .inr ⟨_, rfl⟩
      · exact .inl rfl

theorem IsVerdict.isMarked {found : List Finding} (verdict : IsVerdict found)
    {single : Finding} (member : single ∈ found) : IsMarked single := by
  rcases verdict with rfl | ⟨detail, rfl⟩
  · simp at member
  · rw [List.mem_singleton] at member
    rw [member]
    exact ⟨rfl, rfl, rfl⟩

theorem IsVerdict.length_le {found : List Finding} (verdict : IsVerdict found) :
    found.length ≤ 1 := by
  rcases verdict with rfl | ⟨detail, rfl⟩
  · exact Nat.zero_le 1
  · exact Nat.le_refl 1

theorem isMarked_of_mem {found : Finding} (member : found ∈ findings rules message) :
    IsMarked found := by
  rw [findings_eq_flatten] at member
  rcases List.mem_flatten.1 member with ⟨part, listed, member⟩
  exact (isVerdict_of_mem_tests listed).isMarked member

theorem length_findings_le : (findings rules message).length ≤ 4 := by
  have each : ∀ part ∈ tests rules message, part.length ≤ 1 :=
    fun _ member => (isVerdict_of_mem_tests member).length_le
  unfold tests at each
  unfold findings
  split
  · exact Nat.le_add_left 1 3
  · rename_i notBlank
    simp only [notBlank, Bool.false_eq_true, if_false, List.forall_mem_cons] at each
    simp only [List.length_append]
    omega

/-- The findings come in the order of the tests. -/
theorem ascending_findings :
    Ascending (· < · : Nat → Nat → Prop)
      (fun position found => ∃ part, (tests rules message)[position]? = some part ∧
        found ∈ part)
      (findings rules message) := by
  rw [findings_eq_flatten, ← List.flatMap_id]
  refine (Ascending.flatMap (tests rules message) id
    (fun index part position found => position = index ∧ found ∈ part) ?_ ?_).imp ?_
  · intro index part listed
    rcases isVerdict_of_mem_tests (List.mem_of_getElem? listed) with rfl | ⟨detail, rfl⟩
    · exact .nil
    · exact .singleton ⟨rfl, List.mem_singleton_self _⟩
  · rintro index index' part part' first second found found' lt _ _ ⟨rfl, _⟩ ⟨rfl, _⟩
    exact lt
  · rintro position found ⟨index, part, listed, rfl, member⟩
    exact ⟨part, listed, member⟩

end CommitMessage

end Precommit
