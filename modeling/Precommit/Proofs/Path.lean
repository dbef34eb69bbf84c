import Precommit.Path

/-!
# Paths made of names

Names that are joined by slashes are the components of the path that results, and its
steps and its names. Such a path is normalized already if no name has a backslash in it.
-/

namespace Precommit

namespace Path

/-- A text that an entry of a directory can be named by. -/
structure IsName (name : String) : Prop where
  ne_empty : name ≠ ""
  ne_here : name ≠ "."
  ne_up : name ≠ ".."
  unbroken : '/' ∉ name.toList

instance : DecidablePred IsName := fun name =>
  decidable_of_iff (name ≠ "" ∧ name ≠ "." ∧ name ≠ ".." ∧ '/' ∉ name.toList)
    ⟨fun ⟨ne_empty, ne_here, ne_up, unbroken⟩ => ⟨ne_empty, ne_here, ne_up, unbroken⟩,
      fun isName => ⟨isName.ne_empty, isName.ne_here, isName.ne_up, isName.unbroken⟩⟩

/-- The path that leads through the given names. -/
def join (names : List String) : String :=
  String.intercalate "/" names

variable {names : List String}

theorem toList_join (names : List String) :
    (join names).toList = ['/'].intercalate (names.map String.toList) :=
  String.toList_intercalate

theorem join_singleton (name : String) : join [name] = name :=
  String.intercalate_singleton

theorem join_cons {name : String} (nonempty : names ≠ []) :
    join (name :: names) = name ++ "/" ++ join names := by
  cases names with
  | nil => exact absurd rfl nonempty
  | cons second rest => exact String.intercalate_cons_cons

theorem utf8ByteSize_join_cons {name : String} (nonempty : names ≠ []) :
    (join (name :: names)).utf8ByteSize =
      name.utf8ByteSize + 1 + (join names).utf8ByteSize := by
  rw [join_cons nonempty, String.utf8ByteSize_append, String.utf8ByteSize_append]
  rfl

theorem utf8ByteSize_join_pos (nonempty : names ≠ []) (named : ∀ name ∈ names, name ≠ "") :
    0 < (join names).utf8ByteSize := by
  cases names with
  | nil => exact absurd rfl nonempty
  | cons name rest =>
      cases rest with
      | nil =>
          rw [join_singleton, Nat.pos_iff_ne_zero, Ne, String.utf8ByteSize_eq_zero_iff]
          exact named name (List.mem_singleton_self name)
      | cons second rest =>
          rw [utf8ByteSize_join_cons (List.cons_ne_nil second rest)]
          omega

theorem components_join (nonempty : names ≠ []) (unbroken : ∀ name ∈ names, '/' ∉ name.toList) :
    components (join names) = names := by
  have pieces : ((['/'].intercalate (names.map String.toList)).splitOn '/') =
      names.map String.toList := by
    apply List.splitOn_intercalate
    · intro piece member
      rcases List.mem_map.1 member with ⟨name, listed, rfl⟩
      exact unbroken name listed
    · exact mt List.map_eq_nil_iff.1 nonempty
  rw [components, Text.split_eq_splitOn, toList_join, pieces, List.map_map]
  exact (List.map_congr_left fun name _ => String.ofList_toList).trans (List.map_id names)

section

variable (nonempty : names ≠ []) (named : ∀ name ∈ names, IsName name)

include nonempty named

theorem steps_join : steps (join names) = names := by
  rw [steps, components_join nonempty fun name member => (named name member).unbroken]
  refine List.filter_eq_self.2 fun name member => ?_
  simp [(named name member).ne_empty, (named name member).ne_here]

theorem names_join : Path.names (join names) = names := by
  rw [Path.names, steps_join nonempty named]
  refine List.filter_eq_self.2 fun name member => ?_
  simp [(named name member).ne_up]

theorem baseName?_join : baseName? (join names) = names.getLast? := by
  rw [baseName?, steps_join nonempty named]
  cases last : names.getLast? with
  | none => rfl
  | some name => simp [(named name (List.mem_of_getLast? last)).ne_up]

/-- The extension of a path is that of its last name. -/
theorem extension?_join : extension? (join names) = names.getLast?.bind nameExtension? := by
  rw [extension?, baseName?_join nonempty named]

end

theorem extension?_of_isName {name : String} (isName : IsName name) :
    extension? name = nameExtension? name := by
  have single := extension?_join (List.cons_ne_nil name []) (List.forall_mem_singleton.2 isName)
  rwa [join_singleton] at single

/-- The extension of a name is what follows its last dot, if something stands before this dot. -/
theorem nameExtension?_eq_some_iff {name ending : String} :
    nameExtension? name = some ending ↔
      ∃ stem, name = stem ++ "." ++ ending ∧ stem ≠ "" ∧ '.' ∉ ending.toList := by
  have dropped (text : List Char) :
      text.drop (text.takeWhile (· != '.')).length = text.dropWhile (· != '.') := by
    have behind : (text.takeWhile (· != '.') ++ text.dropWhile (· != '.')).drop
        (text.takeWhile (· != '.')).length = text.dropWhile (· != '.') := List.drop_left
    rwa [List.takeWhile_append_dropWhile] at behind
  unfold nameExtension?
  simp only [dropped]
  constructor
  · intro found
    have whole : name.toList.reverse.takeWhile (· != '.') ++
        name.toList.reverse.dropWhile (· != '.') = name.toList.reverse :=
      List.takeWhile_append_dropWhile
    have first := List.head?_dropWhile_not (· != '.') name.toList.reverse
    have undotted : '.' ∉ name.toList.reverse.takeWhile (· != '.') := by
      intro dot
      simpa using List.all_eq_true.1 List.all_takeWhile _ dot
    split at found
    · cases found
    · cases found
    · rename_i nonempty long
      cases behind : name.toList.reverse.dropWhile (· != '.') with
      | nil => exact absurd behind nonempty
      | cons dot stem =>
          rw [behind] at whole first long
          obtain rfl : dot = '.' := by simpa using first
          refine ⟨String.ofList stem.reverse, ?_, ?_, ?_⟩
          · rw [← String.toList_inj, ← Option.some.inj found]
            have spelled := congrArg List.reverse whole
            simpa using spelled.symm
          · simpa using long '.'
          · rw [← Option.some.inj found]
            simpa using undotted
  · rintro ⟨stem, rfl, nonempty, undotted⟩
    have text : (stem ++ "." ++ ending).toList.reverse =
        ending.toList.reverse ++ '.' :: stem.toList.reverse := by
      simp
    have others : ∀ character ∈ ending.toList.reverse, (character != '.') = true := by
      rintro character member
      rw [bne_iff_ne]
      rintro rfl
      exact undotted (List.mem_reverse.1 member)
    rw [text, List.dropWhile_append_of_pos others, List.takeWhile_append_of_pos others]
    cases reversed : stem.toList.reverse with
    | nil => exact absurd (by simpa using reversed) nonempty
    | cons last before => simp
theorem not_mem_join {character : Char} (ne_slash : character ≠ '/')
    (absent : ∀ name ∈ names, character ∉ name.toList) : character ∉ (join names).toList := by
  induction names with
  | nil => exact List.not_mem_nil
  | cons name rest ih =>
      rcases List.forall_mem_cons.1 absent with ⟨notInName, notInRest⟩
      by_cases single : rest = []
      · rw [single, join_singleton]
        exact notInName
      · rw [join_cons single, String.toList_append, String.toList_append, List.mem_append,
          List.mem_append, not_or, not_or]
        exact ⟨⟨notInName, by simpa using ne_slash⟩, ih notInRest⟩

theorem dropHere_eq_self {path : List Char} (elsewhere : ∀ rest, path ≠ '.' :: '/' :: rest) :
    dropHere path = path := by
  unfold dropHere
  split
  · exact absurd rfl (elsewhere _)
  · rfl

/-- What remains of a path is what comes after all `./` at its start. -/
theorem exists_dropHere (path : List Char) :
    ∃ count, path = (List.replicate count "./".toList).flatten ++ dropHere path ∧
      ¬"./".toList <+: dropHere path := by
  induction path using dropHere.induct with
  | case1 rest ih =>
      rcases ih with ⟨count, split, stops⟩
      refine ⟨count + 1, ?_, stops⟩
      rw [List.replicate_succ, List.flatten_cons, List.append_assoc, dropHere, ← split]
      rfl
  | case2 path elsewhere =>
      rw [dropHere_eq_self elsewhere]
      refine ⟨0, rfl, ?_⟩
      rintro ⟨rest, rfl⟩
      exact elsewhere rest rfl

theorem dropHere_suffix (path : List Char) : dropHere path <:+ path := by
  rcases exists_dropHere path with ⟨count, split, _⟩
  exact ⟨_, split.symm⟩

theorem noBackslash_normalize (path : String) : '\\' ∉ (normalize path).toList := by
  intro member
  rw [normalize, String.toList_ofList] at member
  rcases List.mem_map.1 ((dropHere_suffix _).subset member) with ⟨character, _, same⟩
  split at same
  · cases same
  · rename_i other
    exact other (beq_iff_eq.2 same)

theorem prefix_join (name : String) (below : List String) :
    name.toList <+: (join (name :: below)).toList := by
  by_cases single : below = []
  · have whole : name.toList ++ [] = (join (name :: below)).toList := by
      rw [single, join_singleton, List.append_nil]
    exact ⟨[], whole⟩
  · rw [join_cons single, String.toList_append, String.toList_append, List.append_assoc]
    exact List.prefix_append ..

theorem head?_join_ne_slash (named : ∀ name ∈ names, IsName name) :
    (join names).toList.head? ≠ some '/' := by
  cases names with
  | nil => exact fun slash => by cases slash
  | cons name below =>
      have isName := named name List.mem_cons_self
      rcases prefix_join name below with ⟨ending, begins⟩
      rw [← begins]
      cases text : name.toList with
      | nil => exact absurd (String.toList_eq_nil_iff.1 text) isName.ne_empty
      | cons first others =>
          rw [List.cons_append, List.head?_cons, Ne, Option.some.injEq]
          rintro rfl
          exact isName.unbroken (text ▸ List.mem_cons_self)

/-- A path does not begin with `./` if its first name is not `.`. -/
theorem join_ne_here (named : ∀ name ∈ names, IsName name) (rest : List Char) :
    (join names).toList ≠ '.' :: '/' :: rest := by
  intro here
  cases names with
  | nil => cases here
  | cons name below =>
      have isName := named name List.mem_cons_self
      have begins := prefix_join name below
      rw [here] at begins
      rcases List.prefix_cons_iff.1 begins with empty | ⟨others, text, begins⟩
      · exact isName.ne_empty (String.toList_eq_nil_iff.1 empty)
      · rcases List.prefix_cons_iff.1 begins with rfl | ⟨others, rfl, _⟩
        · exact isName.ne_here (String.toList_injective text)
        · exact isName.unbroken (by simp [text])

theorem normalize_join (named : ∀ name ∈ names, IsName name)
    (plain : ∀ name ∈ names, '\\' ∉ name.toList) : normalize (join names) = join names := by
  have slashes : ∀ character ∈ (join names).toList,
      (if character == '\\' then '/' else character) = character := by
    intro character member
    refine if_neg fun same => ?_
    rw [beq_iff_eq.1 same] at member
    exact not_mem_join (by decide) plain member
  rw [normalize, List.map_congr_left slashes, List.map_id', dropHere_eq_self (join_ne_here named),
    String.ofList_toList]

end Path

end Precommit
