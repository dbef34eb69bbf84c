import Mathlib.Data.List.Forall2

/-!
# Lists with ascending tags

A list is tagged in ascending order if each of its items has a tag that is true of it
and the tags ascend along the list. Lists that are put together from tagged parts are
tagged as soon as the tags of earlier parts precede those of later ones.
-/

namespace Precommit

/-- The items have tags that are true of them and ascend. -/
def Ascending {Tag Item : Type} (precedes : Tag → Tag → Prop) (isTag : Tag → Item → Prop)
    (items : List Item) : Prop :=
  ∃ tags, List.Forall₂ isTag tags items ∧ tags.Pairwise precedes

namespace Ascending

variable {Tag Item : Type} {precedes : Tag → Tag → Prop} {isTag : Tag → Item → Prop}

theorem nil : Ascending precedes isTag [] :=
  ⟨[], .nil, .nil⟩

theorem singleton {tag : Tag} {item : Item} (holds : isTag tag item) :
    Ascending precedes isTag [item] :=
  ⟨[tag], .cons holds .nil, List.pairwise_singleton precedes tag⟩

theorem exists_item {tags : List Tag} {items : List Item}
    (holds : List.Forall₂ isTag tags items) {tag : Tag} (member : tag ∈ tags) :
    ∃ item, isTag tag item := by
  induction holds with
  | nil => simp at member
  | cons holds _ ih =>
      rcases List.mem_cons.1 member with rfl | member
      · exact ⟨_, holds⟩
      · exact ih member

theorem imp {isTag' : Tag → Item → Prop} {items : List Item}
    (tagged : Ascending precedes isTag items)
    (weaken : ∀ tag item, isTag tag item → isTag' tag item) :
    Ascending precedes isTag' items := by
  rcases tagged with ⟨tags, holds, ascend⟩
  exact ⟨tags, holds.imp weaken, ascend⟩

theorem append {isLeft isRight : Tag → Item → Prop} {left right : List Item}
    (taggedLeft : Ascending precedes isLeft left)
    (taggedRight : Ascending precedes isRight right)
    (ascend : ∀ first second item item', isLeft first item → isRight second item' →
      precedes first second) :
    Ascending precedes (fun tag item => isLeft tag item ∨ isRight tag item)
      (left ++ right) := by
  rcases taggedLeft with ⟨leftTags, leftHolds, leftAscend⟩
  rcases taggedRight with ⟨rightTags, rightHolds, rightAscend⟩
  refine ⟨leftTags ++ rightTags, ?_, ?_⟩
  · exact List.rel_append (leftHolds.imp fun _ _ => .inl) (rightHolds.imp fun _ _ => .inr)
  · refine List.pairwise_append.2 ⟨leftAscend, rightAscend, ?_⟩
    intro first first_mem second second_mem
    rcases exists_item leftHolds first_mem with ⟨item, holds⟩
    rcases exists_item rightHolds second_mem with ⟨item', holds'⟩
    exact ascend first second item item' holds holds'

/-- Items and tags may be replaced along with each other. -/
theorem map {Tag' Item' : Type} {precedes' : Tag' → Tag' → Prop} {isTag' : Tag' → Item' → Prop}
    {items : List Item} (tagged : Ascending precedes isTag items)
    (retag : Tag → Tag') (change : Item → Item')
    (keeps : ∀ tag item, isTag tag item → isTag' (retag tag) (change item))
    (ascend : ∀ first second, precedes first second → precedes' (retag first) (retag second)) :
    Ascending precedes' isTag' (items.map change) := by
  rcases tagged with ⟨tags, holds, ascending⟩
  refine ⟨tags.map retag, ?_, List.pairwise_map.2 (ascending.imp fun {_ _} => ascend _ _)⟩
  rw [List.forall₂_map_left_iff, List.forall₂_map_right_iff]
  exact holds.imp keeps

theorem retag {Tag' : Type} {precedes' : Tag' → Tag' → Prop} {isTag' : Tag' → Item → Prop}
    {items : List Item} (tagged : Ascending precedes isTag items) (change : Tag → Tag')
    (keeps : ∀ tag item, isTag tag item → isTag' (change tag) item)
    (ascend : ∀ first second, precedes first second → precedes' (change first) (change second)) :
    Ascending precedes' isTag' items := by
  rw [← List.map_id items]
  exact tagged.map change id keeps ascend

theorem exists_tag {items : List Item} (tagged : Ascending precedes isTag items) {item : Item}
    (member : item ∈ items) : ∃ tag, isTag tag item := by
  rcases tagged with ⟨tags, holds, _⟩
  exact exists_item holds.flip member

/--
The parts of a list one after the other. Tags may depend on the place of the part that
they come from.
-/
theorem flatMap {Part : Type} (parts : List Part) (items : Part → List Item)
    (isTagOf : Nat → Part → Tag → Item → Prop)
    (each : ∀ index part, parts[index]? = some part →
      Ascending precedes (isTagOf index part) (items part))
    (ascend : ∀ index index' part part' first second item item', index < index' →
      parts[index]? = some part → parts[index']? = some part' →
      isTagOf index part first item → isTagOf index' part' second item' →
      precedes first second) :
    Ascending precedes
      (fun tag item => ∃ index part, parts[index]? = some part ∧ isTagOf index part tag item)
      (parts.flatMap items) := by
  induction parts generalizing isTagOf with
  | nil => exact nil
  | cons part rest ih =>
      rw [List.flatMap_cons]
      have later := ih (fun index => isTagOf (index + 1))
        (fun index part' => each (index + 1) part')
        (fun index index' part' part'' first second item item' lt =>
          ascend (index + 1) (index' + 1) part' part'' first second item item'
            (Nat.succ_lt_succ lt))
      refine ((each 0 part rfl).append later ?_).imp ?_
      · rintro first second item item' holds ⟨index, part', found, holds'⟩
        exact ascend 0 (index + 1) part part' first second item item' (Nat.succ_pos index) rfl
          found holds holds'
      · rintro tag item (holds | ⟨index, part', found, holds⟩)
        · exact ⟨0, part, rfl, holds⟩
        · exact ⟨index + 1, part', found, holds⟩

/-- What is kept of a list is tagged with its positions. -/
theorem filter (items : List Item) (keep : Item → Bool) :
    Ascending (· < · : Nat → Nat → Prop)
      (fun position item => items[position]? = some item ∧ keep item = true)
      (items.filter keep) := by
  have parts : items.filter keep =
      items.flatMap fun item => if keep item then [item] else [] := by
    induction items with
    | nil => rfl
    | cons item rest ih =>
        rw [List.filter_cons, List.flatMap_cons, ih]
        split <;> rfl
  rw [parts]
  refine (flatMap items _
    (fun index part position item => position = index ∧ item = part ∧ keep part = true)
    ?_ ?_).imp ?_
  · intro index part found
    split
    · rename_i kept
      exact singleton ⟨rfl, rfl, kept⟩
    · exact nil
  · rintro index index' part part' first second item item' lt _ _ ⟨rfl, _⟩ ⟨rfl, _⟩
    exact lt
  · rintro position item ⟨index, part, found, rfl, rfl, kept⟩
    exact ⟨found, kept⟩

end Ascending

end Precommit
