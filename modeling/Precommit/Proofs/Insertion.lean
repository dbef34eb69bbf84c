import Mathlib.Data.List.Flatten

/-!
# Lists with further items

A list grows by insertion if further items are put in between, before and after the items
that it has, which stay in their order. What is known of the further items is part of the
relation, so lists that are put together part by part keep it.
-/

namespace Precommit

/-- The second list is the first one with further items in it, each of which `isNew`. -/
inductive Inserts {Item : Type} (isNew : Item → Prop) : List Item → List Item → Prop
  | nil : Inserts isNew [] []
  | kept {item : Item} {old new : List Item} (rest : Inserts isNew old new) :
      Inserts isNew (item :: old) (item :: new)
  | added {item : Item} {old new : List Item} (fresh : isNew item)
      (rest : Inserts isNew old new) : Inserts isNew old (item :: new)

namespace Inserts

variable {Item Part : Type} {isNew : Item → Prop} {old new : List Item}

theorem refl (items : List Item) : Inserts isNew items items := by
  induction items with
  | nil => exact .nil
  | cons item rest ih => exact .kept ih

theorem of_forall (each : ∀ item ∈ new, isNew item) : Inserts isNew [] new := by
  induction new with
  | nil => exact .nil
  | cons item rest ih =>
      rw [List.forall_mem_cons] at each
      exact .added each.1 (ih each.2)

theorem append {old' new' : List Item} (first : Inserts isNew old new)
    (second : Inserts isNew old' new') : Inserts isNew (old ++ old') (new ++ new') := by
  induction first with
  | nil => exact second
  | kept _ ih => exact .kept ih
  | added fresh _ ih => exact .added fresh ih

theorem flatMap {parts : List Part} {items items' : Part → List Item}
    (each : ∀ part ∈ parts, Inserts isNew (items part) (items' part)) :
    Inserts isNew (parts.flatMap items) (parts.flatMap items') := by
  induction parts with
  | nil => exact .nil
  | cons part rest ih =>
      rw [List.forall_mem_cons] at each
      rw [List.flatMap_cons, List.flatMap_cons]
      exact each.1.append (ih each.2)

theorem of_sublist (kept : old.Sublist new) : Inserts (fun _ => True) old new := by
  induction kept with
  | slnil => exact .nil
  | cons _ _ ih => exact .added trivial ih
  | cons_cons _ _ ih => exact .kept ih

theorem sublist (grows : Inserts isNew old new) : old.Sublist new := by
  induction grows with
  | nil => exact .slnil
  | kept _ ih => exact ih.cons_cons _
  | added _ _ ih => exact ih.cons _

/-- What was not there before is one of the further items. -/
theorem isNew_of_not_mem (grows : Inserts isNew old new) {item : Item} (member : item ∈ new)
    (absent : item ∉ old) : isNew item := by
  induction grows with
  | nil => cases member
  | kept _ ih =>
      rw [List.mem_cons, not_or] at absent
      exact ih (List.mem_of_ne_of_mem absent.1 member) absent.2
  | added fresh _ ih =>
      rcases List.mem_cons.1 member with rfl | member
      · exact fresh
      · exact ih member absent

end Inserts

end Precommit
