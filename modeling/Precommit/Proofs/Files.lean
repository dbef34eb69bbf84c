import Mathlib.Data.List.Flatten
import Mathlib.Data.List.Sort
import Precommit.Listing
import Precommit.Proofs.Directory
import Precommit.Proofs.Path

/-!
# The files of a directory

The files of a directory, listed depth first and in the order of the names, are exactly
what the lists of names lead to that find a file. They come in ascending order, and the path
of each leads to it if it can be followed.
-/

namespace Precommit

namespace Directory

variable {directory : Directory} {names : List String}

/-- The names of the entries. -/
def entryNames : Directory → List String
  | .empty => []
  | .file name _ rest => name :: rest.entryNames
  | .folder name _ rest => name :: rest.entryNames

/-- The names of the entries and of everything below them. -/
def allNames : Directory → List String
  | .empty => []
  | .file name _ rest => name :: rest.allNames
  | .folder name inner rest => name :: (inner.allNames ++ rest.allNames)

/-- No two entries of a directory have the same name. -/
def HasDistinctNames : Directory → Prop
  | .empty => True
  | .file name _ rest => name ∉ rest.entryNames ∧ rest.HasDistinctNames
  | .folder name inner rest =>
      name ∉ rest.entryNames ∧ inner.HasDistinctNames ∧ rest.HasDistinctNames

instance decidableHasDistinctNames : (directory : Directory) → Decidable directory.HasDistinctNames
  | .empty => .isTrue trivial
  | .file name _ rest =>
      have := decidableHasDistinctNames rest
      inferInstanceAs (Decidable (name ∉ rest.entryNames ∧ rest.HasDistinctNames))
  | .folder name inner rest =>
      have := decidableHasDistinctNames inner
      have := decidableHasDistinctNames rest
      inferInstanceAs
        (Decidable (name ∉ rest.entryNames ∧ inner.HasDistinctNames ∧ rest.HasDistinctNames))

/-- What is true of the names in every directory. -/
structure IsTree (directory : Directory) : Prop where
  distinct : directory.HasDistinctNames
  named : ∀ name ∈ directory.allNames, Path.IsName name

/-- How deep directories are nested in the directory. -/
def height : Directory → Nat
  | .empty => 0
  | .file _ _ rest => rest.height
  | .folder _ inner rest => max (inner.height + 1) rest.height

/-- For each entry of a directory, all files in it, as lists of names. -/
def fileEntries : Directory → List (String × List (List String))
  | .empty => []
  | .file name _ rest => (name, [[name]]) :: rest.fileEntries
  | .folder name inner rest =>
      (name, (inOrder inner.fileEntries).map (name :: ·)) :: rest.fileEntries

/-- All files in a directory, depth first and in the order of the names. -/
def files (directory : Directory) : List (List String) :=
  inOrder directory.fileEntries

/-- The paths of all files in a directory. -/
def filePaths (directory : Directory) : List String :=
  directory.files.map Path.join

section Order

variable {found : List (String × List (List String))}

theorem mem_inOrder_iff : names ∈ inOrder found ↔ ∃ entry ∈ found, names ∈ entry.2 := by
  simp only [inOrder, List.mem_flatMap, List.mem_mergeSort]

theorem inOrder_singleton (name : String) (files : List (List String)) :
    inOrder [(name, files)] = files := by
  rw [inOrder, List.mergeSort_singleton, List.flatMap_singleton]

theorem inOrder_of_pairwise (sorted : found.Pairwise fun left right => left.1 ≤ right.1) :
    inOrder found = found.flatMap Prod.snd := by
  rw [inOrder, List.mergeSort_of_pairwise (sorted.imp fun less => decide_eq_true less)]

/-- Leaving out files does not change the order of the others. -/
theorem inOrder_filter (keep : List String → Bool) :
    inOrder (found.map fun entry => (entry.1, entry.2.filter keep)) =
      (inOrder found).filter keep := by
  have sorted := @List.map_mergeSort _ _
    (fun left right : String × List (List String) => decide (left.1 ≤ right.1))
    (fun left right : String × List (List String) => decide (left.1 ≤ right.1))
    (fun entry => (entry.1, entry.2.filter keep)) found fun _ _ _ _ => rfl
  rw [inOrder, inOrder, ← sorted, List.filter_flatMap, List.flatMap_map]

/-- Entries whose files begin with the names of the entries come in the order of their files. -/
theorem pairwise_inOrder (distinct : (found.map Prod.fst).Nodup)
    (ascending : ∀ entry ∈ found, entry.2.Pairwise (· < ·))
    (headed : ∀ entry ∈ found, ∀ names ∈ entry.2, names.head? = some entry.1) :
    (inOrder found).Pairwise (· < ·) := by
  have sorted := @List.pairwise_mergeSort _
    (fun left right : String × List (List String) => decide (left.1 ≤ right.1))
    (fun _ _ _ => by simpa using String.le_trans)
    (fun first second => by simpa using String.le_total first.1 second.1) found
  have perm := List.mergeSort_perm found
    (fun left right : String × List (List String) => decide (left.1 ≤ right.1))
  have apart := List.pairwise_map.1 ((perm.map Prod.fst).nodup_iff.2 distinct)
  have before := sorted.and apart
  rw [inOrder, List.pairwise_flatMap]
  refine ⟨fun entry member => ascending entry (perm.mem_iff.1 member), ?_⟩
  refine before.imp_of_mem fun {first second} firstMember secondMember order => ?_
  rcases order with ⟨least, differ⟩
  rintro (_ | ⟨name, rest⟩) member (_ | ⟨name', rest'⟩) member'
  · cases headed first (perm.mem_iff.1 firstMember) _ member
  · cases headed first (perm.mem_iff.1 firstMember) _ member
  · cases headed second (perm.mem_iff.1 secondMember) _ member'
  · have head := headed first (perm.mem_iff.1 firstMember) _ member
    have head' := headed second (perm.mem_iff.1 secondMember) _ member'
    rw [List.head?_cons, Option.some.injEq] at head head'
    subst head head'
    exact List.cons_lt_cons_iff.2
      (.inl (Std.lt_of_le_of_ne (of_decide_eq_true least) differ))

end Order

section Files

theorem mem_files_file_iff {name : String} {content : Bytes} {rest : Directory} :
    names ∈ (file name content rest).files ↔ names = [name] ∨ names ∈ rest.files := by
  simp only [files, fileEntries, mem_inOrder_iff, List.exists_mem_cons_iff, List.mem_singleton]

theorem mem_files_folder_iff {name : String} {inner rest : Directory} :
    names ∈ (folder name inner rest).files ↔
      (∃ below ∈ inner.files, name :: below = names) ∨ names ∈ rest.files := by
  simp only [files, fileEntries, mem_inOrder_iff, List.exists_mem_cons_iff, List.mem_map]

theorem not_mem_files_empty : names ∉ empty.files := by
  simp [files, fileEntries, mem_inOrder_iff]

theorem exists_cons_of_mem_files (member : names ∈ directory.files) :
    ∃ name ∈ directory.entryNames, ∃ below, names = name :: below := by
  induction directory with
  | empty => exact absurd member not_mem_files_empty
  | file name content rest ih =>
      rcases mem_files_file_iff.1 member with rfl | inRest
      · exact ⟨name, List.mem_cons_self, [], rfl⟩
      · rcases ih inRest with ⟨name', entry, below, rfl⟩
        exact ⟨name', List.mem_cons_of_mem name entry, below, rfl⟩
  | folder name inner rest _ ih =>
      rcases mem_files_folder_iff.1 member with ⟨below, _, rfl⟩ | inRest
      · exact ⟨name, List.mem_cons_self, below, rfl⟩
      · rcases ih inRest with ⟨name', entry, below, rfl⟩
        exact ⟨name', List.mem_cons_of_mem name entry, below, rfl⟩

theorem ne_nil_of_mem_files (member : names ∈ directory.files) : names ≠ [] := by
  rcases exists_cons_of_mem_files member with ⟨name, _, below, rfl⟩
  exact List.cons_ne_nil name below

theorem subset_allNames_of_mem_files (member : names ∈ directory.files) :
    names ⊆ directory.allNames := by
  induction directory generalizing names with
  | empty => exact absurd member not_mem_files_empty
  | file name content rest ih =>
      rcases mem_files_file_iff.1 member with rfl | inRest
      · exact List.cons_subset.2 ⟨List.mem_cons_self, List.nil_subset _⟩
      · exact List.subset_cons_of_subset name (ih inRest)
  | folder name inner rest ihInner ih =>
      rcases mem_files_folder_iff.1 member with ⟨below, inInner, rfl⟩ | inRest
      · exact List.cons_subset_cons name (List.subset_append_of_subset_left _ (ihInner inInner))
      · exact List.subset_cons_of_subset name (List.subset_append_of_subset_right _ (ih inRest))

theorem not_mem_files_of_fresh {name : String} (fresh : name ∉ directory.entryNames)
    (below : List String) : name :: below ∉ directory.files := by
  intro member
  rcases exists_cons_of_mem_files member with ⟨name', entry, below', same⟩
  rw [List.cons.injEq] at same
  exact fresh (same.1 ▸ entry)

/-- The files are those lists of names that lead to one. -/
theorem mem_files_iff (distinct : directory.HasDistinctNames) :
    names ∈ directory.files ↔ (directory.contentAt? names).isSome = true := by
  induction directory generalizing names with
  | empty =>
      refine iff_of_false not_mem_files_empty ?_
      cases names <;> simp [contentAt?, entryAt?, find?, Entry.content?]
  | file name content rest ih =>
      rcases distinct with ⟨fresh, distinct⟩
      rw [mem_files_file_iff]
      rcases names with _ | ⟨head, below⟩
      · refine iff_of_false ?_ Bool.false_ne_true
        rintro (isFile | inRest)
        · cases isFile
        · exact ne_nil_of_mem_files inRest rfl
      · by_cases same : name = head
        · subst same
          rw [or_iff_left (not_mem_files_of_fresh fresh below)]
          cases below <;> simp [contentAt?, entryAt?, find?, Entry.content?]
        · have elsewhere : (file name content rest).find? head = rest.find? head := by
            rw [find?, if_neg (by simpa using same)]
          rw [contentAt?_cons_congr elsewhere, ← ih distinct, or_iff_right]
          rintro isFile
          exact same (List.cons.inj isFile).1.symm
  | folder name inner rest ihInner ih =>
      rcases distinct with ⟨fresh, distinctInner, distinct⟩
      rw [mem_files_folder_iff]
      rcases names with _ | ⟨head, below⟩
      · refine iff_of_false ?_ Bool.false_ne_true
        rintro (⟨_, _, isFile⟩ | inRest)
        · cases isFile
        · exact ne_nil_of_mem_files inRest rfl
      · by_cases same : name = head
        · subst same
          have found : (folder name inner rest).find? name = some (.folder inner) := by simp [find?]
          rw [or_iff_left (not_mem_files_of_fresh fresh below), contentAt?,
            entryAt?_cons_folder found]
          simp only [List.cons.injEq, true_and, exists_eq_right]
          exact ihInner distinctInner
        · have elsewhere : (folder name inner rest).find? head = rest.find? head := by
            rw [find?, if_neg (by simpa using same)]
          rw [contentAt?_cons_congr elsewhere, ← ih distinct, or_iff_right]
          rintro ⟨_, _, isFile⟩
          exact same (List.cons.inj isFile).1

theorem map_fst_fileEntries (directory : Directory) :
    directory.fileEntries.map Prod.fst = directory.entryNames := by
  induction directory with
  | empty => rfl
  | file name content rest ih => rw [fileEntries, List.map_cons, ih, entryNames]
  | folder name inner rest _ ih => rw [fileEntries, List.map_cons, ih, entryNames]

theorem HasDistinctNames.nodup (distinct : directory.HasDistinctNames) :
    directory.entryNames.Nodup := by
  induction directory with
  | empty => exact List.nodup_nil
  | file name content rest ih => exact List.nodup_cons.2 ⟨distinct.1, ih distinct.2⟩
  | folder name inner rest _ ih => exact List.nodup_cons.2 ⟨distinct.1, ih distinct.2.2⟩

theorem head?_of_mem_fileEntries {entry : String × List (List String)}
    (listed : entry ∈ directory.fileEntries) (member : names ∈ entry.2) :
    names.head? = some entry.1 := by
  induction directory with
  | empty => cases listed
  | file name content rest ih =>
      rcases List.mem_cons.1 listed with rfl | listed
      · rw [List.mem_singleton.1 member, List.head?_cons]
      · exact ih listed
  | folder name inner rest _ ih =>
      rcases List.mem_cons.1 listed with rfl | listed
      · rcases List.mem_map.1 member with ⟨below, _, rfl⟩
        rw [List.head?_cons]
      · exact ih listed

theorem pairwise_files_of_entries (distinct : directory.HasDistinctNames)
    (ascending : ∀ entry ∈ directory.fileEntries, entry.2.Pairwise (· < ·)) :
    directory.files.Pairwise (· < ·) := by
  apply pairwise_inOrder
  · rw [map_fst_fileEntries]
    exact distinct.nodup
  · exact ascending
  · exact fun _ listed _ => head?_of_mem_fileEntries listed

theorem pairwise_of_mem_fileEntries (distinct : directory.HasDistinctNames)
    {entry : String × List (List String)} (listed : entry ∈ directory.fileEntries) :
    entry.2.Pairwise (· < ·) := by
  induction directory generalizing entry with
  | empty => cases listed
  | file name content rest ih =>
      rcases List.mem_cons.1 listed with rfl | listed
      · exact List.pairwise_singleton ..
      · exact ih distinct.2 listed
  | folder name inner rest ihInner ih =>
      rcases distinct with ⟨_, distinctInner, distinct⟩
      rcases List.mem_cons.1 listed with rfl | listed
      · have inner := pairwise_files_of_entries distinctInner fun _ => ihInner distinctInner
        exact List.pairwise_map.2
          (inner.imp fun order => List.cons_lt_cons_iff.2 (.inr ⟨rfl, order⟩))
      · exact ih distinct listed

/-- The files are listed in ascending order of their names. -/
theorem pairwise_files (distinct : directory.HasDistinctNames) :
    directory.files.Pairwise (· < ·) :=
  pairwise_files_of_entries distinct fun _ => pairwise_of_mem_fileEntries distinct

theorem nodup_files (distinct : directory.HasDistinctNames) : directory.files.Nodup := by
  refine (pairwise_files distinct).imp fun {names names'} less => ?_
  rintro rfl
  exact List.lt_irrefl names less

theorem exists_folder_of_entryAt? {reached below : List String} (deeper : below ≠ [])
    (found : (directory.entryAt? (reached ++ below)).isSome = true) :
    ∃ inner, directory.entryAt? reached = some (.folder inner) := by
  induction reached generalizing directory with
  | nil => exact ⟨directory, rfl⟩
  | cons name rest ih =>
      rw [List.cons_append, entryAt?] at found
      rw [entryAt?]
      cases entry : directory.find? name with
      | none => simp [entry] at found
      | some entry' =>
          cases entry' with
          | folder inner =>
              rw [entry] at found
              exact ih found
          | file content =>
              simp [entry, deeper] at found

/-- Following names that lead to a file, one arrives there. -/
theorem locateFrom_names {reached : List String} (named : ∀ name ∈ names, Path.IsName name)
    (found : (directory.entryAt? (reached ++ names)).isSome = true) :
    directory.locateFrom (.inside reached) names = some (.inside (reached ++ names)) := by
  induction names generalizing reached with
  | nil => rw [locateFrom, List.append_nil]
  | cons name rest ih =>
      rcases List.forall_mem_cons.1 named with ⟨isName, namedRest⟩
      have isStep : ¬ (name == "" || name == ".") = true ∧ ¬ (name == "..") = true := by
        simp [isName.ne_empty, isName.ne_here, isName.ne_up]
      unfold locateFrom
      rw [if_neg isStep.1, if_neg isStep.2]
      by_cases last : rest = []
      · subst last
        rfl
      · rw [List.append_cons reached name rest] at found ⊢
        rcases exists_folder_of_entryAt? last found with ⟨inner, isFolder⟩
        simp only [isFolder, List.isEmpty_iff, if_neg last]
        exact ih namedRest found

/-- The path of a file leads to it, unless it is too long. -/
theorem locate?_join (tree : directory.IsTree) (member : names ∈ directory.files)
    (noNull : ∀ name ∈ names, '\u0000' ∉ name.toList)
    (followable : Path.isFollowable (Path.join names) = true) :
    directory.locate? (Path.join names) = some (.inside names) := by
  have nonempty := ne_nil_of_mem_files member
  have named : ∀ name ∈ names, Path.IsName name := fun name inNames =>
    tree.named name (subset_allNames_of_mem_files member inNames)
  have found : (directory.entryAt? ([] ++ names)).isSome = true := by
    have content := (mem_files_iff tree.distinct).1 member
    rw [contentAt?] at content
    exact Option.isSome_of_isSome_bind content
  have pos := Path.utf8ByteSize_join_pos nonempty fun name member => (named name member).ne_empty
  have absent : '\u0000' ∉ (Path.join names).toList := Path.not_mem_join (by decide) noNull
  have allowed : ¬ (Path.join names == "" || (Path.join names).toList.contains '\u0000' ||
      !Path.isFollowable (Path.join names)) = true := by
    have ne_empty : Path.join names ≠ "" := fun empty => by simp [empty] at pos
    simp [followable, absent, ne_empty]
  have relative : ((Path.join names).toList.head? == some '/') = false := by
    simpa using Path.head?_join_ne_slash named
  rw [locate?, if_neg allowed, relative,
    Path.components_join nonempty fun name member => (named name member).unbroken]
  exact locateFrom_names named found

theorem content?_join (tree : directory.IsTree) (member : names ∈ directory.files)
    (noNull : ∀ name ∈ names, '\u0000' ∉ name.toList)
    (followable : Path.isFollowable (Path.join names) = true) :
    directory.content? (Path.join names) = directory.contentAt? names :=
  content?_eq_of_locate? (locate?_join tree member noNull followable)

end Files

end Directory

end Precommit
