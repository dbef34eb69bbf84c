import Mathlib.Data.List.Nodup

/-!
# Entries with different keys

Where no key occurs twice, what is found under a key is what stands beside it, in
whatever order the entries come.
-/

namespace Precommit

variable {Key Value : Type} [BEq Key]

theorem lookup_map {Value' : Type} (change : Value → Value') (key : Key)
    (entries : List (Key × Value)) :
    (entries.map fun (key, value) => (key, change value)).lookup key =
      (entries.lookup key).map change := by
  induction entries with
  | nil => rfl
  | cons entry entries ih =>
      rcases entry with ⟨name, value⟩
      rw [List.map_cons, List.lookup_cons, List.lookup_cons, ih]
      cases key == name with
      | true => rfl
      | false => rfl

variable [LawfulBEq Key] {entries others : List (Key × Value)} {key : Key} {value : Value}

theorem lookup_eq_some_iff_mem (distinct : (entries.map Prod.fst).Nodup) :
    entries.lookup key = some value ↔ (key, value) ∈ entries := by
  constructor
  · intro found
    rcases List.lookup_eq_some_iff.1 found with ⟨before, after, rfl, _⟩
    exact List.mem_append_right before List.mem_cons_self
  · intro member
    rcases List.append_of_mem member with ⟨before, after, rfl⟩
    refine List.lookup_eq_some_iff.2 ⟨before, after, rfl, fun entry listed => ?_⟩
    rw [List.map_append, List.map_cons, List.nodup_append] at distinct
    have other := distinct.2.2 entry.1 (List.mem_map_of_mem listed) key List.mem_cons_self
    rw [bne_iff_ne]
    exact other.symm

theorem lookup_eq_none_iff_not_mem :
    entries.lookup key = none ↔ key ∉ entries.map Prod.fst := by
  rw [List.lookup_eq_none_iff, List.mem_map, not_exists]
  simp only [bne_iff_ne, not_and]
  exact forall_congr' fun entry => forall_congr' fun _ => ne_comm

/-- The order of the entries does not matter. -/
theorem lookup_eq_of_perm (distinct : (entries.map Prod.fst).Nodup)
    (reordered : entries.Perm others) : entries.lookup key = others.lookup key := by
  have distinct' := (reordered.map Prod.fst).nodup_iff.1 distinct
  ext value
  rw [lookup_eq_some_iff_mem distinct, lookup_eq_some_iff_mem distinct', reordered.mem_iff]

/-- Of some of the keys only the entries are kept, and what is found under these stays. -/
theorem lookup_filter (kept : Key → Bool) (key : Key) (entries : List (Key × Value)) :
    (entries.filter fun entry => kept entry.1).lookup key =
      if kept key then entries.lookup key else none := by
  induction entries with
  | nil => simp
  | cons entry entries ih =>
      rcases entry with ⟨name, value⟩
      by_cases same : key = name
      · subst same
        by_cases keep : kept key = true
        · simp [keep]
        · simp [keep, ih]
      · have other : (key == name) = false := beq_eq_false_iff_ne.2 same
        by_cases keep : kept name = true
        · simp [keep, List.lookup_cons, other, ih]
        · simp [keep, List.lookup_cons, other, ih]

end Precommit
