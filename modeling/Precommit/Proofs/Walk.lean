import Precommit.Proofs.Files

/-!
# Walking a directory

The walk lists those files of a directory whose last name has an extension to scan and
whose other names are not excluded, as far as it may go down and as far as there is room
for the path. Their order is that of all files.
-/

namespace Precommit

namespace Directory

variable {directory : Directory} {names : List String}

section Within

theorem entryNames_within_subset (directory : Directory) (room : Nat) :
    (directory.within room).entryNames ⊆ directory.entryNames := by
  induction directory with
  | empty => exact List.Subset.refl _
  | file name content rest ih =>
      rw [within]
      split
      · exact List.cons_subset_cons name ih
      · exact List.subset_cons_of_subset name ih
  | folder name inner rest _ ih =>
      rw [within]
      split
      · exact List.cons_subset_cons name ih
      · exact List.subset_cons_of_subset name ih

theorem HasDistinctNames.within (distinct : directory.HasDistinctNames) (room : Nat) :
    (directory.within room).HasDistinctNames := by
  induction directory generalizing room with
  | empty => exact trivial
  | file name content rest ih =>
      rw [Directory.within]
      split
      · exact ⟨fun entry => distinct.1 (entryNames_within_subset rest room entry),
          ih distinct.2 room⟩
      · exact ih distinct.2 room
  | folder name inner rest ihInner ih =>
      rw [Directory.within]
      split
      · exact ⟨fun entry => distinct.1 (entryNames_within_subset rest room entry),
          ihInner distinct.2.1 _, ih distinct.2.2 room⟩
      · exact ih distinct.2.2 room

/-- What is left is every file whose path fits. -/
theorem mem_files_within_iff (named : ∀ name ∈ directory.allNames, name ≠ "") {room : Nat} :
    names ∈ (directory.within room).files ↔
      names ∈ directory.files ∧ (Path.join names).utf8ByteSize ≤ room := by
  induction directory generalizing names room with
  | empty =>
      rw [within]
      exact iff_of_false not_mem_files_empty fun found => not_mem_files_empty found.1
  | file name content rest ih =>
      rcases List.forall_mem_cons.1 named with ⟨_, namedRest⟩
      rw [within]
      split
      · rename_i fits
        rw [mem_files_file_iff, mem_files_file_iff, ih namedRest, or_and_right]
        refine or_congr_left (and_iff_left_of_imp ?_).symm
        rintro rfl
        rwa [Path.join_singleton]
      · rename_i large
        rw [mem_files_file_iff, ih namedRest, or_and_right]
        refine (or_iff_right ?_).symm
        rintro ⟨rfl, fits⟩
        rw [Path.join_singleton] at fits
        exact large fits
  | folder name inner rest ihInner ih =>
      rcases List.forall_mem_cons.1 named with ⟨_, namedBelow⟩
      rcases List.forall_mem_append.1 namedBelow with ⟨namedInner, namedRest⟩
      have size (below : List String) (member : below ∈ inner.files) :
          0 < (Path.join below).utf8ByteSize ∧ (Path.join (name :: below)).utf8ByteSize =
            name.utf8ByteSize + 1 + (Path.join below).utf8ByteSize := by
        have nonempty := ne_nil_of_mem_files member
        refine ⟨Path.utf8ByteSize_join_pos nonempty ?_, Path.utf8ByteSize_join_cons nonempty⟩
        exact fun name' inBelow => namedInner name' (subset_allNames_of_mem_files member inBelow)
      rw [within]
      split
      · rename_i fits
        simp only [mem_files_folder_iff, ihInner namedInner, ih namedRest, or_and_right]
        refine or_congr_left ?_
        constructor
        · rintro ⟨below, ⟨member, fitsBelow⟩, rfl⟩
          rcases size below member with ⟨pos, total⟩
          exact ⟨⟨below, member, rfl⟩, by omega⟩
        · rintro ⟨⟨below, member, rfl⟩, fitsBelow⟩
          rcases size below member with ⟨pos, total⟩
          exact ⟨below, ⟨member, by omega⟩, rfl⟩
      · rename_i large
        rw [mem_files_folder_iff, ih namedRest, or_and_right]
        refine (or_iff_right ?_).symm
        rintro ⟨⟨below, member, rfl⟩, fits⟩
        rcases size below member with ⟨pos, total⟩
        omega

theorem files_within (tree : directory.IsTree) (room : Nat) :
    (directory.within room).files =
      directory.files.filter fun names => decide ((Path.join names).utf8ByteSize ≤ room) := by
  have sorted := pairwise_files (tree.distinct.within room)
  have sorted' := (pairwise_files tree.distinct).filter
    fun names => decide ((Path.join names).utf8ByteSize ≤ room)
  refine sorted.eq_of_mem_iff sorted' fun names => ?_
  rw [mem_files_within_iff fun name member => (tree.named name member).ne_empty, List.mem_filter,
    decide_eq_true_eq]

end Within

end Directory

namespace Classifier

/-- Whether the walk goes down to a file and lists it. -/
def reaches (classifier : Classifier) : List String → Bool
  | [] => false
  | [name] => classifier.isScannableExtension name
  | name :: rest => !classifier.isExcludedDir name && classifier.reaches rest

theorem reaches_cons {classifier : Classifier} {name : String} {below : List String}
    (deeper : below ≠ []) :
    classifier.reaches (name :: below) =
      (!classifier.isExcludedDir name && classifier.reaches below) := by
  cases below with
  | nil => exact absurd rfl deeper
  | cons second rest => rfl

end Classifier

namespace Directory

variable {directory : Directory} {classifier : Classifier}

/-- The walk keeps of every entry the files that it goes down to, as deep as it may go. -/
theorem scannableEntries_eq (classifier : Classifier) (depth : Nat) (directory : Directory) :
    scannableEntries classifier depth directory =
      directory.fileEntries.map fun entry =>
        (entry.1, entry.2.filter fun names =>
          decide (names.length ≤ depth + 1) && classifier.reaches names) := by
  induction directory generalizing depth with
  | empty => rfl
  | file name content rest ih =>
      have shallow : decide ([name].length ≤ depth + 1) = true := by simp
      rw [scannableEntries, ih, fileEntries, List.map_cons, List.filter_singleton, shallow,
        Bool.true_and, Bool.cond_eq_ite]
      rfl
  | folder name inner rest ihInner ih =>
      rw [scannableEntries, ih, ihInner, inOrder_filter, fileEntries, List.map_cons,
        List.filter_map]
      have kept : inner.files.filter
            ((fun names => decide (names.length ≤ depth + 1) && classifier.reaches names) ∘
              (name :: ·)) =
          inner.files.filter fun below =>
            decide (below.length ≤ depth) &&
              (!classifier.isExcludedDir name && classifier.reaches below) := by
        refine List.filter_congr fun below member => ?_
        rw [Function.comp_apply, Classifier.reaches_cons (ne_nil_of_mem_files member),
          List.length_cons]
        simp only [Nat.add_le_add_iff_right]
      rw [files] at kept
      rw [kept]
      cases excluded : classifier.isExcludedDir name with
      | true => simp
      | false =>
          by_cases deep : depth = 0
          · have nothing : (inOrder inner.fileEntries).filter (fun below =>
                decide (below.length ≤ depth) && (!false && classifier.reaches below)) = [] := by
              refine List.filter_eq_nil_iff.2 fun below member => ?_
              have nonempty := List.length_pos_iff.2 (ne_nil_of_mem_files member)
              simp [deep, Nat.not_le.2 nonempty]
            rw [nothing]
            simp [deep]
          · simp [deep, Nat.sub_add_cancel (Nat.pos_of_ne_zero deep)]

/-- The files that the walk lists: those it goes down to, as deep and as far as it may go. -/
def walkedFiles (classifier : Classifier) (directory : Directory) : List (List String) :=
  directory.files.filter fun names =>
    decide ((Path.join names).utf8ByteSize ≤ walkRoom) &&
      (decide (names.length ≤ maxDepth + 1) && classifier.reaches names)

theorem scannableFiles_within (tree : directory.IsTree) (classifier : Classifier) :
    (directory.within walkRoom).scannableFiles classifier =
      (directory.walkedFiles classifier).map fun names => Path.normalize (Path.join names) := by
  have kept : inOrder (scannableEntries classifier maxDepth (directory.within walkRoom)) =
      directory.walkedFiles classifier := by
    rw [scannableEntries_eq, inOrder_filter, ← files, files_within tree, List.filter_filter]
    simp only [walkedFiles, Bool.and_comm (decide ((Path.join _).utf8ByteSize ≤ walkRoom))]
  rw [scannableFiles, kept]
  rfl

theorem length_le_height (member : names ∈ directory.files) :
    names.length ≤ directory.height + 1 := by
  induction directory generalizing names with
  | empty => exact absurd member not_mem_files_empty
  | file name content rest ih =>
      rcases mem_files_file_iff.1 member with rfl | inRest
      · exact Nat.le_add_left 1 _
      · exact ih inRest
  | folder name inner rest ihInner ih =>
      rw [height]
      rcases mem_files_folder_iff.1 member with ⟨below, inInner, rfl⟩ | inRest
      · have shorter := ihInner inInner
        rw [List.length_cons]
        omega
      · have shorter := ih inRest
        omega

theorem walkedFiles_eq (shallow : directory.height ≤ maxDepth) (classifier : Classifier) :
    directory.walkedFiles classifier =
      directory.files.filter fun names =>
        decide ((Path.join names).utf8ByteSize ≤ walkRoom) && classifier.reaches names := by
  refine List.filter_congr fun names member => ?_
  have fits : names.length ≤ maxDepth + 1 :=
    (length_le_height member).trans (Nat.add_le_add_right shallow 1)
  rw [decide_eq_true fits, Bool.true_and]

end Directory

/-- Without an answer from the version control, the files of the walk are listed. -/
theorem FileSource.paths_unanswered {directory : Directory} (tree : directory.IsTree)
    {versionControl : VersionControl} (unanswered : versionControl.tracked.bind (·.paths?) = none)
    (classifier : Classifier) :
    FileSource.all.paths classifier versionControl directory =
      (directory.walkedFiles classifier).map fun names => Path.normalize (Path.join names) := by
  rw [FileSource.paths, unanswered, Option.getD_none, Directory.scannableFiles_within tree]

/-- Without backslashes in the names, the paths of the files are listed as they are. -/
theorem FileSource.paths_plain {directory : Directory} (tree : directory.IsTree)
    (plain : ∀ name ∈ directory.allNames, '\\' ∉ name.toList) {versionControl : VersionControl}
    (unanswered : versionControl.tracked.bind (·.paths?) = none) (classifier : Classifier) :
    FileSource.all.paths classifier versionControl directory =
      (directory.walkedFiles classifier).map Path.join := by
  rw [paths_unanswered tree unanswered]
  refine List.map_congr_left fun names member => ?_
  have inNames := Directory.subset_allNames_of_mem_files (List.mem_filter.1 member).1
  exact Path.normalize_join (fun name inside => tree.named name (inNames inside))
    fun name inside => plain name (inNames inside)

end Precommit
