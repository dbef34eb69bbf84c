import Precommit.Proofs.Audit.Pruning
import Precommit.Proofs.Text.ByteOrder
import Precommit.Proofs.WalkedPaths

/-!
# What the walk lists, and in which order

The walk lists exactly the files with an extension to scan that are in no excluded directory and
not too deep, each of them once. Their paths ascend if they are compared component by component,
byte by byte; so the list does not depend on the order in which directories deliver their
entries (`paths_walked_in_order`). Only files whose paths would be too long are missing.
-/

namespace Precommit

/-- The bytes of the components of a path, by which the walk orders paths. -/
def Path.componentBytes (path : String) : List Bytes :=
  (components path).map fun component => Utf8.encode component.toList

namespace Directory

variable {directory other : Directory} {names : List String}

/-! ### The order of the entries -/

/-- A directory with one more entry. -/
def add (name : String) (entry : Entry) (rest : Directory) : Directory :=
  match entry with
  | .file content => .file name content rest
  | .folder inner => .folder name inner rest

/-- The same entries, delivered in whatever order at every level. -/
inductive Reordered : Directory → Directory → Prop
  | empty : Reordered .empty .empty
  | file {name : String} {content : Bytes} {rest rest' : Directory}
      (later : Reordered rest rest') :
      Reordered (.file name content rest) (.file name content rest')
  | folder {name : String} {inner inner' rest rest' : Directory}
      (within : Reordered inner inner') (later : Reordered rest rest') :
      Reordered (.folder name inner rest) (.folder name inner' rest')
  | swap {name name' : String} {entry entry' : Entry} {rest : Directory} :
      Reordered (add name entry (add name' entry' rest)) (add name' entry' (add name entry rest))
  | trans {first second third : Directory} (once : Reordered first second)
      (again : Reordered second third) : Reordered first third

theorem entryNames_add (name : String) (entry : Entry) (rest : Directory) :
    (add name entry rest).entryNames = name :: rest.entryNames := by
  cases entry <;> rfl

theorem Reordered.perm_entryNames (reordered : directory.Reordered other) :
    directory.entryNames.Perm other.entryNames := by
  induction reordered with
  | empty => exact .refl _
  | file _ ih => exact ih.cons _
  | folder _ _ _ ih => exact ih.cons _
  | swap =>
      simp only [entryNames_add]
      exact .swap ..
  | trans _ _ ih ih' => exact ih.trans ih'

theorem Reordered.mem_allNames_iff (reordered : directory.Reordered other) {name : String} :
    name ∈ directory.allNames ↔ name ∈ other.allNames := by
  induction reordered with
  | empty => rfl
  | file _ ih => simp only [allNames, List.mem_cons, ih]
  | folder _ _ ihInner ih => simp only [allNames, List.mem_cons, List.mem_append, ihInner, ih]
  | @swap _ _ entry entry' _ =>
      cases entry <;> cases entry' <;>
        simp only [add, allNames, List.mem_cons, List.mem_append] <;> tauto
  | trans _ _ ih ih' => exact ih.trans ih'

theorem Reordered.mem_files_iff (reordered : directory.Reordered other) :
    names ∈ directory.files ↔ names ∈ other.files := by
  induction reordered generalizing names with
  | empty => rfl
  | file _ ih => simp only [mem_files_file_iff, ih]
  | folder _ _ ihInner ih => simp only [mem_files_folder_iff, ihInner, ih]
  | @swap _ _ entry entry' _ =>
      cases entry <;> cases entry' <;>
        simp only [add, mem_files_file_iff, mem_files_folder_iff, or_left_comm]
  | trans _ _ ih ih' => exact ih.trans ih'

theorem Reordered.hasDistinctNames (reordered : directory.Reordered other)
    (distinct : directory.HasDistinctNames) : other.HasDistinctNames := by
  induction reordered with
  | empty => exact distinct
  | file later ih =>
      rcases distinct with ⟨fresh, distinct⟩
      exact ⟨mt later.perm_entryNames.mem_iff.2 fresh, ih distinct⟩
  | folder _ later ihInner ih =>
      rcases distinct with ⟨fresh, distinctInner, distinct⟩
      exact ⟨mt later.perm_entryNames.mem_iff.2 fresh, ihInner distinctInner, ih distinct⟩
  | @swap _ _ entry entry' _ =>
      cases entry <;> cases entry' <;>
        simp only [add, HasDistinctNames, entryNames, List.mem_cons, not_or] at distinct ⊢ <;>
        tauto
  | trans _ _ ih ih' => exact ih' (ih distinct)

theorem Reordered.isTree (reordered : directory.Reordered other) (tree : directory.IsTree) :
    other.IsTree where
  distinct := reordered.hasDistinctNames tree.distinct
  named := fun name member => tree.named name (reordered.mem_allNames_iff.2 member)

/-- Sorted by their names, the files of a directory do not show in which order they came. -/
theorem Reordered.files_eq (reordered : directory.Reordered other) (tree : directory.IsTree) :
    directory.files = other.files := by
  have sorted := pairwise_files tree.distinct
  have sorted' := pairwise_files (reordered.isTree tree).distinct
  exact sorted.eq_of_mem_iff sorted' fun names => reordered.mem_files_iff

end Directory

namespace Classifier

variable {classifier : Classifier}

theorem reaches_append_singleton (folders : List String) (name : String) :
    classifier.reaches (folders ++ [name]) = true ↔
      (∀ folder ∈ folders, folder ∉ classifier.scan.excludedDirs) ∧
        classifier.isScannableExtension name = true := by
  induction folders with
  | nil => simp [reaches]
  | cons folder rest ih =>
      rw [List.cons_append, reaches_cons (List.append_ne_nil_of_right_ne_nil _ (by simp)),
        Bool.and_eq_true, ih, List.forall_mem_cons, and_assoc]
      simp [isExcludedDir]

theorem isScannableExtension_iff {name : String} (isName : Path.IsName name) :
    classifier.isScannableExtension name = true ↔
      ∃ stem, ∃ ending ∈ classifier.scan.extensions,
        name = stem ++ "." ++ ending ∧ stem ≠ "" ∧ '.' ∉ ending.toList := by
  rw [isScannableExtension, Path.extension?_of_isName isName, Option.any_eq_true]
  simp only [Path.nameExtension?_eq_some_iff, List.contains_eq_mem, decide_eq_true_eq]
  constructor
  · rintro ⟨ending, ⟨stem, split⟩, listed⟩
    exact ⟨stem, ending, listed, split⟩
  · rintro ⟨stem, ending, listed, split⟩
    exact ⟨ending, ⟨stem, split⟩, listed⟩

end Classifier

namespace Directory

variable {directory : Directory} {classifier : Classifier}

theorem componentBytes_join {names : List String} (nonempty : names ≠ [])
    (named : ∀ name ∈ names, Path.IsName name) :
    Path.componentBytes (Path.join names) = names.map fun name => Utf8.encode name.toList := by
  rw [Path.componentBytes,
    Path.components_join nonempty fun name member => (named name member).unbroken]

/-- The paths of the files ascend as the files do. -/
theorem pairwise_componentBytes (tree : directory.IsTree) (classifier : Classifier) :
    ((directory.walkedFiles classifier).map Path.join).Pairwise
      fun path path' => Path.componentBytes path < Path.componentBytes path' := by
  rw [List.pairwise_map]
  have sorted : (directory.walkedFiles classifier).Pairwise (· < ·) :=
    (pairwise_files tree.distinct).filter _
  refine sorted.imp_of_mem fun {names names'} member member' less => ?_
  have isFile := (mem_walkedFiles_iff.1 member).1
  have isFile' := (mem_walkedFiles_iff.1 member').1
  rw [componentBytes_join (ne_nil_of_mem_files isFile) fun name inNames =>
      tree.named name (subset_allNames_of_mem_files isFile inNames),
    componentBytes_join (ne_nil_of_mem_files isFile') fun name inNames =>
      tree.named name (subset_allNames_of_mem_files isFile' inNames)]
  exact List.map_lt (fun _ _ lt => Utf8.encode_lt_encode lt) less

/-- The walk lists a file if its last name and its other names allow it. -/
theorem mem_walkedFiles_iff_split (tree : directory.IsTree) (folders : List String)
    (name : String) :
    folders ++ [name] ∈ directory.walkedFiles classifier ↔
      (directory.contentAt? (folders ++ [name])).isSome = true ∧
        (Path.join (folders ++ [name])).utf8ByteSize ≤ 4093 ∧ folders.length ≤ 64 ∧
          (∀ folder ∈ folders, folder ∉ classifier.scan.excludedDirs) ∧
            ∃ stem, ∃ ending ∈ classifier.scan.extensions,
              name = stem ++ "." ++ ending ∧ stem ≠ "" ∧ '.' ∉ ending.toList := by
  rw [mem_walkedFiles_iff, ← mem_files_iff tree.distinct, Classifier.reaches_append_singleton]
  refine and_congr_right fun isFile => and_congr_right fun _ => and_congr ?_ <|
    and_congr_right fun _ => ?_
  · rw [List.length_append, List.length_singleton, maxDepth]
    omega
  · apply Classifier.isScannableExtension_iff
    exact tree.named name (subset_allNames_of_mem_files isFile (by simp))

theorem mem_map_join_walkedFiles_iff {path : String} :
    path ∈ (directory.walkedFiles classifier).map Path.join ↔
      ∃ folders name, path = Path.join (folders ++ [name]) ∧
        folders ++ [name] ∈ directory.walkedFiles classifier := by
  rw [List.mem_map]
  constructor
  · rintro ⟨names, member, rfl⟩
    have nonempty := ne_nil_of_mem_files (mem_walkedFiles_iff.1 member).1
    refine ⟨names.dropLast, names.getLast nonempty, ?_⟩
    rw [List.dropLast_append_getLast nonempty]
    exact ⟨rfl, member⟩
  · rintro ⟨folders, name, rfl, member⟩
    exact ⟨folders ++ [name], member, rfl⟩

end Directory

namespace FileSource

open Directory

variable {directory : Directory} {versionControl : VersionControl}

/--
Without an answer from the version control, and without backslashes in the names, exactly the
files are listed that have an extension to scan, lie below 64 directories at most of which none
is excluded, and have a path of 4093 bytes at most. Each is listed once, under its own path.
Component by component and byte by byte the paths ascend, and they are the same in whatever
order the directories deliver their entries.
-/
theorem paths_walked_in_order (tree : directory.IsTree)
    (plain : ∀ name ∈ directory.allNames, '\\' ∉ name.toList)
    (unanswered : versionControl.tracked.bind (·.paths?) = none) (classifier : Classifier) :
    let listed := FileSource.all.paths classifier versionControl directory
    (∀ path, path ∈ listed ↔ ∃ folders name, path = Path.join (folders ++ [name]) ∧
      (directory.contentAt? (folders ++ [name])).isSome = true ∧ path.utf8ByteSize ≤ 4093 ∧
        folders.length ≤ 64 ∧ (∀ folder ∈ folders, folder ∉ classifier.scan.excludedDirs) ∧
          ∃ stem, ∃ ending ∈ classifier.scan.extensions,
            name = stem ++ "." ++ ending ∧ stem ≠ "" ∧ '.' ∉ ending.toList) ∧
    (∀ path ∈ listed, listed.count path = 1) ∧
    listed.Pairwise (fun path path' => Path.componentBytes path < Path.componentBytes path') ∧
    ∀ other, directory.Reordered other →
      FileSource.all.paths classifier versionControl other = listed := by
  intro listed
  have paths : listed = (directory.walkedFiles classifier).map Path.join :=
    paths_plain tree plain unanswered classifier
  have ascending := pairwise_componentBytes tree classifier
  rw [← paths] at ascending
  refine ⟨?_, ?_, ascending, ?_⟩
  · intro path
    rw [paths, mem_map_join_walkedFiles_iff]
    simp only [mem_walkedFiles_iff_split tree]
    constructor
    · rintro ⟨folders, name, rfl, listed⟩
      exact ⟨folders, name, rfl, listed⟩
    · rintro ⟨folders, name, rfl, listed⟩
      exact ⟨folders, name, rfl, listed⟩
  · intro path member
    refine List.count_eq_one_of_mem (ascending.imp ?_) member
    rintro path path' lt rfl
    exact List.lt_irrefl _ lt
  · intro other reordered
    have plain' : ∀ name ∈ other.allNames, '\\' ∉ name.toList := fun name member =>
      plain name (reordered.mem_allNames_iff.2 member)
    rw [paths, paths_plain (reordered.isTree tree) plain' unanswered, walkedFiles, walkedFiles,
      reordered.files_eq tree]

/-- A directory comes before a file whose name continues its own, whichever is delivered first. -/
theorem paths_walked_in_order_continued :
    let directory := Directory.file "a.md" [] (.folder "a" (.file "b.md" [] .empty) .empty)
    let other := Directory.folder "a" (.file "b.md" [] .empty) (.file "a.md" [] .empty)
    let classifier : Classifier := { scan := {}, secretExempt := [] }
    let listed := FileSource.all.paths classifier {} directory
    directory.IsTree ∧ "a/b.md" ∈ listed ∧ "a.md" ∈ listed ∧
      listed.Pairwise (fun path path' => Path.componentBytes path < Path.componentBytes path') ∧
      Path.componentBytes "a/b.md" < Path.componentBytes "a.md" ∧
      FileSource.all.paths classifier {} other = listed := by
  intro directory other classifier listed
  have tree : directory.IsTree := ⟨by decide, by decide⟩
  have reordered : directory.Reordered other :=
    @Reordered.swap "a.md" "a" (.file []) (.folder (.file "b.md" [] .empty)) .empty
  rcases @paths_walked_in_order directory {} tree (by decide) rfl classifier with
    ⟨exactly, _, ascending, stable⟩
  refine ⟨tree, ?_, ?_, ascending, by decide, stable other reordered⟩
  · apply (exactly "a/b.md").2
    exact ⟨["a"], "b.md", by decide, by decide, by decide, by decide, by decide,
      "b", "md", by decide, by decide, by decide, by decide⟩
  · apply (exactly "a.md").2
    exact ⟨[], "a.md", by decide, by decide, by decide, by decide, by decide,
      "a", "md", by decide, by decide, by decide, by decide⟩

/-- A file below 15 directories is missing because there is no room for `./` before its path. -/
theorem paths_walked_without_long :
    let folders := List.replicate 15 (longName 255 "")
    let name := longName 251 ".md"
    let classifier : Classifier := { scan := {}, secretExempt := [] }
    longDirectory.IsTree ∧ (∀ name ∈ longDirectory.allNames, '\\' ∉ name.toList) ∧
      (longDirectory.contentAt? (folders ++ [name])).isSome = true ∧ folders.length ≤ 64 ∧
      (∀ folder ∈ folders, folder ∉ classifier.scan.excludedDirs) ∧
      Path.extension? name = some "md" ∧ "md" ∈ classifier.scan.extensions ∧
      Path.join (folders ++ [name]) ∉ FileSource.all.paths classifier {} longDirectory := by
  intro folders name classifier
  have plain : ∀ name ∈ longDirectory.allNames, '\\' ∉ name.toList := by
    rw [longDirectory, allNames_nested]
    exact forall_mem_longFile (not_mem_longName (by decide) (by decide))
      (not_mem_longName (by decide) (by decide))
  refine ⟨isTree_longDirectory, plain, ?_, by decide, ?_, ?_, by decide, ?_⟩
  · exact (mem_files_iff isTree_longDirectory.distinct).1 mem_files_longDirectory
  · intro folder member excluded
    have sizes : ∀ name ∈ classifier.scan.excludedDirs, name.utf8ByteSize < 255 := by decide
    have short := sizes folder excluded
    rw [List.eq_of_mem_replicate member, utf8ByteSize_longName] at short
    exact absurd short (by decide)
  · rw [Path.extension?_of_isName (isName_longName (by decide) (by decide))]
    exact nameExtension?_longName 250
  · rw [paths_plain isTree_longDirectory plain rfl, List.mem_map]
    rintro ⟨names, member, _⟩
    rcases mem_walkedFiles_iff.1 member with ⟨isFile, fits, _⟩
    rw [files_longDirectory, List.mem_singleton] at isFile
    rw [isFile, utf8ByteSize_join_longFile] at fits
    exact absurd fits (by decide)

end FileSource

end Precommit
