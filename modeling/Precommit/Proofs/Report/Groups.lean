import Mathlib.Data.List.Perm.Basic
import Mathlib.Data.List.Sort
import Precommit.Report.Groups

/-!
# Groups of findings

Grouping loses nothing and adds nothing: the groups put together are the findings, perhaps
in another order. More precisely, the groups are the one stable partition of the findings by
their headings (`isStablePartition_iff`): the headings come in the order in which they appear
first, and under each come all findings that have it, in the order of the list. This holds
after every finding that is added, so it holds in the end.
-/

namespace Precommit

namespace Report

variable {groups : List Group} {finding : Finding} {findings : List Finding}

theorem perm_addToGroups (groups : List Group) (finding : Finding) :
    ((addToGroups groups finding).flatMap Prod.snd).Perm (finding :: groups.flatMap Prod.snd) := by
  induction groups with
  | nil => exact .refl _
  | cons first groups ih =>
      rcases first with ⟨heading, members⟩
      unfold addToGroups
      split
      · simp only [List.flatMap_cons, List.append_assoc, List.singleton_append]
        exact List.perm_middle
      · simp only [List.flatMap_cons]
        exact (ih.append_left members).trans List.perm_middle

theorem perm_foldl_addToGroups :
    ((findings.foldl addToGroups groups).flatMap Prod.snd).Perm
      (findings ++ groups.flatMap Prod.snd) := by
  induction findings generalizing groups with
  | nil => exact .refl _
  | cons finding findings ih =>
      apply ih.trans
      apply ((perm_addToGroups groups finding).append_left findings).trans
      exact List.perm_middle

/-- The groups put together are the findings. -/
theorem perm_groups (findings : List Finding) :
    ((Report.groups findings).flatMap Prod.snd).Perm findings := by
  have regrouped := @perm_foldl_addToGroups [] findings
  rwa [List.flatMap_nil, List.append_nil] at regrouped

/-- The groups deal the findings out by heading and keep them in order. -/
structure IsStablePartition (findings : List Finding) (groups : List Group) : Prop where
  distinct : (groups.map Prod.fst).Nodup
  /-- The groups come in the order in which their headings appear first. -/
  ordered : (groups.map Prod.fst).Pairwise fun first second =>
    (findings.map Finding.heading).idxOf first < (findings.map Finding.heading).idxOf second
  covers : ∀ finding ∈ findings, finding.heading ∈ groups.map Prod.fst
  nonempty : ∀ group ∈ groups, group.2 ≠ []
  /-- A group is what is left of the list if all findings under other headings are left out. -/
  members : ∀ group ∈ groups,
    group.2 = findings.filter fun finding => finding.heading == group.1

section Step

theorem addToGroups_of_not_mem (unknown : finding.heading ∉ groups.map Prod.fst) :
    addToGroups groups finding = groups ++ [(finding.heading, [finding])] := by
  induction groups with
  | nil => rfl
  | cons first groups ih =>
      rcases first with ⟨heading, members⟩
      rw [List.map_cons, List.mem_cons, not_or] at unknown
      have other : (heading == finding.heading) = false := by
        simpa using fun same => unknown.1 same.symm
      rw [addToGroups, other, ih unknown.2]
      rfl

/-- A finding under a known heading is added to one group and leaves the others alone. -/
theorem addToGroups_of_mem (distinct : (groups.map Prod.fst).Nodup)
    (known : finding.heading ∈ groups.map Prod.fst) :
    addToGroups groups finding = groups.map fun group =>
      (group.1, group.2 ++ if finding.heading == group.1 then [finding] else []) := by
  induction groups with
  | nil => cases known
  | cons first groups ih =>
      rcases first with ⟨heading, members⟩
      rw [List.map_cons, List.nodup_cons] at distinct
      by_cases same : finding.heading = heading
      · have others : ∀ group ∈ groups, (finding.heading == group.1) = false := by
          intro group member
          rw [beq_eq_false_iff_ne, same]
          intro equal
          exact distinct.1 (List.mem_map.2 ⟨group, member, equal.symm⟩)
        have rest : (groups.map fun group =>
            (group.1, group.2 ++ if finding.heading == group.1 then [finding] else [])) =
              groups := by
          rw [List.map_congr_left fun group member => by rw [others group member]]
          simp
        rw [List.map_cons, rest]
        simp [addToGroups, same]
      · rw [List.map_cons, List.mem_cons, or_iff_right same] at known
        have other : (heading == finding.heading) = false := by
          simpa using fun equal => same equal.symm
        simp [addToGroups, other, ih distinct.2 known, same]

end Step

namespace IsStablePartition

theorem nil : IsStablePartition [] [] :=
  ⟨List.nodup_nil, List.Pairwise.nil, by simp, by simp, by simp⟩

/-- The headings of the groups are those of the findings. -/
theorem mem_headings_iff (partition : IsStablePartition findings groups) {heading : String} :
    heading ∈ groups.map Prod.fst ↔ heading ∈ findings.map Finding.heading := by
  constructor
  · intro listed
    rcases List.mem_map.1 listed with ⟨group, member, rfl⟩
    rcases List.exists_mem_of_ne_nil _ (partition.nonempty group member) with ⟨finding, inGroup⟩
    rw [partition.members group member, List.mem_filter, beq_iff_eq] at inGroup
    exact List.mem_map.2 ⟨finding, inGroup⟩
  · intro listed
    rcases List.mem_map.1 listed with ⟨finding, member, rfl⟩
    exact partition.covers finding member

/-- The order of the headings stays as it is when findings are added at the end. -/
theorem ordered_append (partition : IsStablePartition findings groups) (after : List Finding) :
    (groups.map Prod.fst).Pairwise fun first second =>
      ((findings ++ after).map Finding.heading).idxOf first <
        ((findings ++ after).map Finding.heading).idxOf second := by
  refine partition.ordered.imp_of_mem fun {first second} listed listed' before => ?_
  rw [List.map_append, List.idxOf_append_of_mem (partition.mem_headings_iff.1 listed),
    List.idxOf_append_of_mem (partition.mem_headings_iff.1 listed')]
  exact before

theorem add_new (partition : IsStablePartition findings groups)
    (unknown : finding.heading ∉ groups.map Prod.fst) :
    IsStablePartition (findings ++ [finding]) (groups ++ [(finding.heading, [finding])]) := by
  have unseen : finding.heading ∉ findings.map Finding.heading :=
    fun seen => unknown (partition.mem_headings_iff.2 seen)
  have none : (findings.filter fun other => other.heading == finding.heading) = [] := by
    rw [List.filter_eq_nil_iff]
    intro other member same
    exact unseen (List.mem_map.2 ⟨other, member, beq_iff_eq.1 same⟩)
  refine ⟨?_, ?_, ?_, ?_, ?_⟩
  · rw [List.map_append, List.nodup_append]
    refine ⟨partition.distinct, List.nodup_singleton _, ?_⟩
    rintro heading listed _ same rfl
    rcases List.mem_singleton.1 same with rfl
    exact unknown listed
  · rw [@List.map_append _ _ Prod.fst, List.pairwise_append]
    refine ⟨partition.ordered_append _, List.pairwise_singleton _ _, ?_⟩
    intro heading listed last isLast
    rcases List.mem_singleton.1 isLast with rfl
    have seen := partition.mem_headings_iff.1 listed
    rw [List.map_append, List.idxOf_append_of_mem seen, List.idxOf_append_of_notMem unseen]
    exact (List.idxOf_lt_length_of_mem seen).trans_le (Nat.le_add_right _ _)
  · intro other member
    rw [List.map_append, List.mem_append]
    rcases List.mem_append.1 member with member | member
    · exact .inl (partition.covers other member)
    · rcases List.mem_singleton.1 member with rfl
      exact .inr (List.mem_singleton_self _)
  · intro group member
    rcases List.mem_append.1 member with member | member
    · exact partition.nonempty group member
    · rcases List.mem_singleton.1 member with rfl
      exact List.cons_ne_nil _ _
  · intro group member
    rcases List.mem_append.1 member with member | member
    · have other : (finding.heading == group.1) = false := by
        rw [beq_eq_false_iff_ne]
        intro same
        exact unknown (List.mem_map.2 ⟨group, member, same.symm⟩)
      rw [List.filter_append, ← partition.members group member, List.filter_singleton, other]
      exact (List.append_nil _).symm
    · rcases List.mem_singleton.1 member with rfl
      rw [List.filter_append, none, List.filter_singleton, beq_self_eq_true]
      rfl

theorem add_known (partition : IsStablePartition findings groups)
    (known : finding.heading ∈ groups.map Prod.fst) :
    IsStablePartition (findings ++ [finding]) (groups.map fun group =>
      (group.1, group.2 ++ if finding.heading == group.1 then [finding] else [])) := by
  have headings : (groups.map fun group => ((group.1, group.2 ++
      if finding.heading == group.1 then [finding] else []) : Group)).map Prod.fst =
        groups.map Prod.fst := by
    rw [List.map_map]
    rfl
  refine ⟨?_, ?_, ?_, ?_, ?_⟩
  · rw [headings]
    exact partition.distinct
  · rw [headings]
    exact partition.ordered_append _
  · intro other member
    rw [headings]
    rcases List.mem_append.1 member with member | member
    · exact partition.covers other member
    · rcases List.mem_singleton.1 member with rfl
      exact known
  · intro grown member
    rcases List.mem_map.1 member with ⟨group, listed, rfl⟩
    exact List.append_ne_nil_of_left_ne_nil (partition.nonempty group listed) _
  · intro grown member
    rcases List.mem_map.1 member with ⟨group, listed, rfl⟩
    rw [List.filter_append, ← partition.members group listed, List.filter_singleton,
      Bool.cond_eq_ite]

/-- Adding a finding to its group adds it to the findings that are dealt out. -/
theorem addToGroups (partition : IsStablePartition findings groups) :
    IsStablePartition (findings ++ [finding]) (addToGroups groups finding) := by
  by_cases known : finding.heading ∈ groups.map Prod.fst
  · rw [addToGroups_of_mem partition.distinct known]
    exact partition.add_known known
  · rw [addToGroups_of_not_mem known]
    exact partition.add_new known

theorem foldl (partition : IsStablePartition findings groups) (added : List Finding) :
    IsStablePartition (findings ++ added) (added.foldl Report.addToGroups groups) := by
  induction added generalizing findings groups with
  | nil => rwa [List.append_nil]
  | cons finding added ih =>
      rw [List.append_cons]
      exact ih partition.addToGroups

/-- There is one stable partition only. -/
theorem eq (partition : IsStablePartition findings groups) {others : List Group}
    (partition' : IsStablePartition findings others) : groups = others := by
  have headings : groups.map Prod.fst = others.map Prod.fst := by
    refine partition.ordered.eq_of_mem_iff partition'.ordered fun heading => ?_
    rw [partition.mem_headings_iff, partition'.mem_headings_iff]
  have rebuilt {groups : List Group} (partition : IsStablePartition findings groups) :
      groups = (groups.map Prod.fst).map fun heading =>
        (heading, findings.filter fun finding => finding.heading == heading) := by
    rw [List.map_map]
    conv_lhs => rw [← List.map_id groups]
    exact List.map_congr_left fun group member =>
      Prod.ext rfl (partition.members group member)
  rw [rebuilt partition, rebuilt partition', headings]

/-- Two findings stand in one group exactly if both are listed and have the same heading. -/
theorem share_iff (partition : IsStablePartition findings groups) {first second : Finding} :
    (∃ group ∈ groups, first ∈ group.2 ∧ second ∈ group.2) ↔
      first ∈ findings ∧ second ∈ findings ∧ first.heading = second.heading := by
  constructor
  · rintro ⟨group, member, inGroup, inGroup'⟩
    rw [partition.members group member, List.mem_filter, beq_iff_eq] at inGroup inGroup'
    exact ⟨inGroup.1, inGroup'.1, inGroup.2.trans inGroup'.2.symm⟩
  · rintro ⟨listed, listed', same⟩
    rcases List.mem_map.1 (partition.covers first listed) with ⟨group, member, heading⟩
    refine ⟨group, member, ?_, ?_⟩
    · rw [partition.members group member, List.mem_filter, heading, beq_iff_eq]
      exact ⟨listed, rfl⟩
    · rw [partition.members group member, List.mem_filter, heading, beq_iff_eq]
      exact ⟨listed', same.symm⟩

end IsStablePartition

theorem isStablePartition_groups (findings : List Finding) :
    IsStablePartition findings (Report.groups findings) :=
  IsStablePartition.nil.foldl findings

/-- The groups are the stable partition of the findings by heading. -/
theorem isStablePartition_iff :
    IsStablePartition findings groups ↔ groups = Report.groups findings := by
  constructor
  · intro partition
    exact partition.eq (isStablePartition_groups findings)
  · rintro rfl
    exact isStablePartition_groups findings

/-- A group shows a finding of the list, in its heading and among its members. -/
theorem exists_heading_of_mem_groups {group : Group} (member : group ∈ Report.groups findings) :
    (∃ finding ∈ findings, finding.heading = group.1) ∧
      ∀ finding ∈ group.2, finding ∈ findings := by
  have partition := isStablePartition_groups findings
  constructor
  · exact List.mem_map.1 (partition.mem_headings_iff.1 (List.mem_map_of_mem member))
  · intro finding inGroup
    rw [partition.members group member] at inGroup
    exact (List.mem_filter.1 inGroup).1

end Report

end Precommit
