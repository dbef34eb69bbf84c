import Mathlib.Data.List.Forall2

/-!
# Outcomes of reading

A sequence of steps that may fail succeeds exactly if every step does, and a list is
read exactly if each of its items is. The first item that cannot be read decides how the
reading of a list fails.
-/

namespace Precommit

variable {Fault Item Value Value' : Type}

theorem bind_eq_ok_iff {outcome : Except Fault Value} {next : Value → Except Fault Value'}
    {result : Value'} :
    outcome >>= next = .ok result ↔ ∃ value, outcome = .ok value ∧ next value = .ok result := by
  cases outcome with
  | error fault => simp [bind, Except.bind]
  | ok value => simp [bind, Except.bind]

theorem pure_eq_ok_iff {value result : Value} :
    (pure value : Except Fault Value) = .ok result ↔ value = result := by
  simp [pure, Except.pure]

theorem bind_eq_error_iff {outcome : Except Fault Value} {next : Value → Except Fault Value'}
    {fault : Fault} :
    outcome >>= next = .error fault ↔
      outcome = .error fault ∨ ∃ value, outcome = .ok value ∧ next value = .error fault := by
  cases outcome with
  | error fault => simp [bind, Except.bind]
  | ok value => simp [bind, Except.bind]

theorem mapM_eq_ok_iff {read : Item → Except Fault Value} {items : List Item}
    {values : List Value} :
    items.mapM read = .ok values ↔
      List.Forall₂ (fun item value => read item = .ok value) items values := by
  induction items generalizing values with
  | nil => cases values <;> simp [pure_eq_ok_iff]
  | cons item rest ih =>
      rw [List.mapM_cons, bind_eq_ok_iff, List.forall₂_cons_left_iff]
      simp only [bind_eq_ok_iff, pure_eq_ok_iff, ih]
      constructor
      · rintro ⟨value, found, values, holds, rfl⟩
        exact ⟨value, values, found, holds, rfl⟩
      · rintro ⟨value, values, found, holds, rfl⟩
        exact ⟨value, found, values, holds, rfl⟩

/-- Where every item has a value, leaving out the items without one leaves out nothing. -/
theorem filterMap_eq_of_forall₂ {read? : Item → Option Value} {items : List Item}
    {values : List Value}
    (found : List.Forall₂ (fun item value => read? item = some value) items values) :
    items.filterMap read? = values := by
  induction found with
  | nil => rfl
  | cons found _ ih => rw [List.filterMap_cons, found, ih]

/-- A list is read up to its first item that cannot be read. -/
theorem mapM_append_cons {read : Item → Except Fault Value} {before after : List Item}
    {item : Item} {fault : Fault} (readable : ∀ earlier ∈ before, ∃ value, read earlier = .ok value)
    (failed : read item = .error fault) : (before ++ item :: after).mapM read = .error fault := by
  induction before with
  | nil =>
      rw [List.nil_append, List.mapM_cons, failed]
      rfl
  | cons first before ih =>
      rw [List.forall_mem_cons] at readable
      rcases readable.1 with ⟨value, found⟩
      rw [List.cons_append, List.mapM_cons, found, ih readable.2]
      rfl

/-- What was written item by item is read item by item. -/
theorem mapM_map_eq_some {read : Item → Option Value} {write : Value → Item}
    {values : List Value} (reads : ∀ value ∈ values, read (write value) = some value) :
    (values.map write).mapM read = some values := by
  induction values with
  | nil => rfl
  | cons value rest ih =>
      rw [List.forall_mem_cons] at reads
      rw [List.map_cons, List.mapM_cons, reads.1, ih reads.2]
      rfl

theorem eq_map_of_mapM_eq_some {read : Item → Option Value} {write : Value → Item}
    (writes : ∀ item value, read item = some value → item = write value) {items : List Item}
    {values : List Value} (found : items.mapM read = some values) : items = values.map write := by
  induction items generalizing values with
  | nil =>
      rcases Option.some_inj.1 found with rfl
      rfl
  | cons item rest ih =>
      simp only [List.mapM_cons, Option.bind_eq_bind, Option.bind_eq_some_iff, Option.pure_def,
        Option.some_inj] at found
      rcases found with ⟨value, first, values, others, rfl⟩
      rw [List.map_cons, ← writes item value first, ← ih others]

/-- A list has a first item that does not hold, unless all of them do. -/
theorem exists_first {Holds : Item → Prop} {items : List Item}
    (some_not : ¬∀ item ∈ items, Holds item) :
    ∃ before item after, items = before ++ item :: after ∧ (∀ earlier ∈ before, Holds earlier) ∧
      ¬Holds item := by
  induction items with
  | nil => exact absurd (fun _ member => nomatch member) some_not
  | cons item rest ih =>
      by_cases holds : Holds item
      · have later : ¬∀ item ∈ rest, Holds item := by
          intro all
          exact some_not (List.forall_mem_cons.2 ⟨holds, all⟩)
        rcases ih later with ⟨before, other, after, rfl, each, fails⟩
        exact ⟨item :: before, other, after, rfl, List.forall_mem_cons.2 ⟨holds, each⟩, fails⟩
      · exact ⟨[], item, rest, rfl, (fun _ member => nomatch member), holds⟩

theorem exists_of_mem_left {Related : Item → Value → Prop} {items : List Item}
    {values : List Value} (related : List.Forall₂ Related items values) {item : Item}
    (member : item ∈ items) : ∃ value ∈ values, Related item value := by
  induction related with
  | nil => cases member
  | cons holds _ ih =>
      rcases List.mem_cons.1 member with rfl | member
      · exact ⟨_, List.mem_cons_self, holds⟩
      · rcases ih member with ⟨value, listed, holds⟩
        exact ⟨value, List.mem_cons_of_mem _ listed, holds⟩

/-- What is related to a list of two parts has two parts as well. -/
theorem exists_split_of_append {Related : Item → Value → Prop} {before after : List Item}
    {values : List Value} (related : List.Forall₂ Related (before ++ after) values) :
    ∃ before' after', values = before' ++ after' ∧ List.Forall₂ Related before before' ∧
      List.Forall₂ Related after after' := by
  induction before generalizing values with
  | nil => exact ⟨[], values, rfl, .nil, related⟩
  | cons item before ih =>
      cases related with
      | cons holds rest =>
          rcases ih rest with ⟨before', after', rfl, sameBefore, sameAfter⟩
          exact ⟨_ :: before', after', rfl, .cons holds sameBefore, sameAfter⟩

theorem exists_forall₂ {Related : Item → Value → Prop} {items : List Item}
    (each : ∀ item ∈ items, ∃ value, Related item value) :
    ∃ values, List.Forall₂ Related items values := by
  induction items with
  | nil => exact ⟨[], .nil⟩
  | cons item rest ih =>
      rw [List.forall_mem_cons] at each
      rcases each.1 with ⟨value, holds⟩
      rcases ih each.2 with ⟨values, related⟩
      exact ⟨value :: values, .cons holds related⟩

end Precommit
