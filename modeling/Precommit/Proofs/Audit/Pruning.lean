import Precommit.Proofs.Audit.Assembly
import Precommit.Proofs.Audit.Independence
import Precommit.Proofs.Walk

/-!
# Pruning cannot be seen

The walk leaves out what an audit would not scan: files with other extensions and all that
is in an excluded directory. So it makes no difference to the audit whether the files come
from the walk or are all files of the directory. The walk begins all paths with `./`, and so
it also misses the files whose paths would be too long with it and are not without it.
-/

namespace Precommit

open Directory

variable {names : List String}

namespace Classifier

variable {classifier : Classifier}

theorem reaches_of_last (last : names.getLast?.any classifier.isScannableExtension = true)
    (inside : ∀ name ∈ names, classifier.isExcludedDir name = false) :
    classifier.reaches names = true := by
  induction names with
  | nil => cases last
  | cons name rest ih =>
      rcases List.forall_mem_cons.1 inside with ⟨entered, insideRest⟩
      cases rest with
      | nil => exact last
      | cons second rest =>
          rw [List.getLast?_cons_cons] at last
          rw [reaches_cons (List.cons_ne_nil second rest), entered, ih last insideRest]
          rfl

/-- What is scanned is not left out by the walk. -/
theorem reaches_of_isScannable (nonempty : names ≠ []) (named : ∀ name ∈ names, Path.IsName name)
    (scannable : classifier.isScannable (Path.join names) = true) :
    classifier.reaches names = true := by
  rw [isScannable, Bool.and_eq_true, Bool.not_eq_true'] at scannable
  rcases scannable with ⟨extension, included⟩
  apply reaches_of_last
  · rw [isScannableExtension, Path.extension?_join nonempty named] at extension
    cases last : names.getLast? with
    | none =>
        rw [last] at extension
        cases extension
    | some name =>
        have isName := named name (List.mem_of_getLast? last)
        rw [last, Option.bind_some] at extension
        rwa [Option.any_some, isScannableExtension, Path.extension?_of_isName isName]
  · rw [isExcludedPath, Path.names_join nonempty named, List.any_eq_false] at included
    exact fun name member => Bool.eq_false_iff.2 (included name member)

end Classifier

theorem Directory.utf8ByteSize_le_of_content? {directory : Directory} {path : String}
    (found : (directory.content? path).isSome = true) : path.utf8ByteSize ≤ Path.maxBytes := by
  by_contra tooLong
  have unfollowable : Path.isFollowable path = false := by
    simp [Path.isFollowable, tooLong]
  have nowhere : directory.locate? path = none := by
    simp [locate?, unfollowable]
  simp [content?, lookup?, nowhere] at found

namespace Auditor

variable {auditor : Auditor} {read? : String → Option Bytes}

theorem readable_cons_of_not_isScanned {path : String}
    (unscanned : auditor.isScanned read? path = false) (rest : List String) :
    auditor.readable read? (path :: rest) = auditor.readable read? rest := by
  rw [readable_cons]
  cases scannable : auditor.classifier.isScannable path with
  | false => rfl
  | true =>
      cases found : read? path with
      | none => rfl
      | some content => simp [isScanned, scannable, found] at unscanned

/-- Paths that are not scanned can be left out of the list. -/
theorem audit_filter_isScanned (paths : List String) (message : Option String) :
    auditor.audit read? (paths.filter (auditor.isScanned read?)) message =
      auditor.audit read? paths message := by
  have readable : auditor.readable read? (paths.filter (auditor.isScanned read?)) =
      auditor.readable read? paths := by
    induction paths with
    | nil => rfl
    | cons path rest ih =>
        cases scanned : auditor.isScanned read? path with
        | true => rw [List.filter_cons_of_pos scanned, readable_cons, ih, readable_cons path rest]
        | false =>
            rw [List.filter_cons_of_neg (Bool.eq_false_iff.1 scanned), ih,
              readable_cons_of_not_isScanned scanned]
  rw [audit, audit, readable]

/-- Of two lists of the same files, only what they have scanned matters. -/
theorem audit_map_filter_congr {files : List (List String)} {keep keep' : List String → Bool}
    (same : ∀ names ∈ files, auditor.isScanned read? (Path.join names) = true →
      keep names = keep' names) (message : Option String) :
    auditor.audit read? ((files.filter keep).map Path.join) message =
      auditor.audit read? ((files.filter keep').map Path.join) message := by
  rw [← audit_filter_isScanned, ← audit_filter_isScanned ((files.filter keep').map Path.join),
    List.filter_map, List.filter_map, List.filter_filter, List.filter_filter]
  congr 2
  refine List.filter_congr fun names member => ?_
  cases scanned : auditor.isScanned read? (Path.join names) with
  | false => rw [Function.comp_apply, scanned, Bool.false_and, Bool.false_and]
  | true => rw [same names member scanned]

/-- What is scanned, and so can be followed, is listed by the walk unless `./` is too much. -/
theorem fits_and_reaches_of_isScanned {directory : Directory} (tree : directory.IsTree)
    (isFile : names ∈ directory.files)
    (scanned : auditor.isScanned directory.content? (Path.join names) = true) :
    (decide ((Path.join names).utf8ByteSize ≤ walkRoom) && auditor.classifier.reaches names) =
      ((Path.join names).utf8ByteSize != 4094 && (Path.join names).utf8ByteSize != 4095) := by
  rcases Bool.and_eq_true_iff.1 scanned with ⟨scannable, found⟩
  have named : ∀ name ∈ names, Path.IsName name := fun name inNames =>
    tree.named name (subset_allNames_of_mem_files isFile inNames)
  have reached := Classifier.reaches_of_isScannable (ne_nil_of_mem_files isFile) named scannable
  have followed := utf8ByteSize_le_of_content? found
  have room : walkRoom = 4093 := rfl
  have most : Path.maxBytes = 4095 := rfl
  rw [reached, Bool.and_true, Bool.eq_iff_iff, decide_eq_true_eq, Bool.and_eq_true, bne_iff_ne,
    bne_iff_ne]
  omega

/-- What the walk lists is short enough, and on the way to a file that is to be scanned. -/
theorem paths_all_eq {directory : Directory} (tree : directory.IsTree)
    (plain : ∀ name ∈ directory.allNames, '\\' ∉ name.toList)
    (shallow : directory.height ≤ maxDepth) {versionControl : VersionControl}
    (unanswered : versionControl.tracked.bind (·.paths?) = none) (classifier : Classifier) :
    FileSource.all.paths classifier versionControl directory =
      (directory.files.filter fun names =>
        decide ((Path.join names).utf8ByteSize ≤ walkRoom) && classifier.reaches names).map
          Path.join := by
  rw [FileSource.paths_plain tree plain unanswered, walkedFiles_eq shallow]

/--
An audit of what the walk lists is an audit of all files of the directory in the same order,
but for files whose paths have 4094 or 4095 bytes.
-/
theorem audit_paths_all {directory : Directory} (tree : directory.IsTree)
    (plain : ∀ name ∈ directory.allNames, '\\' ∉ name.toList)
    (shallow : directory.height ≤ maxDepth) {versionControl : VersionControl}
    (unanswered : versionControl.tracked.bind (·.paths?) = none) (auditor : Auditor)
    (message : Option String) :
    directory.files.Pairwise (· < ·) ∧
      (∀ names, names ∈ directory.files ↔ (directory.contentAt? names).isSome = true) ∧
      auditor.audit directory.content?
          (FileSource.all.paths auditor.classifier versionControl directory) message =
        auditor.audit directory.content?
          (directory.filePaths.filter fun path =>
            path.utf8ByteSize != 4094 && path.utf8ByteSize != 4095) message := by
  refine ⟨pairwise_files tree.distinct, fun names => mem_files_iff tree.distinct, ?_⟩
  rw [paths_all_eq tree plain shallow unanswered, filePaths, List.filter_map]
  exact audit_map_filter_congr (fun names => fits_and_reaches_of_isScanned tree) message

/-- A directory with a file to scan, one with another extension, and one that is excluded. -/
def mixedDirectory : Directory :=
  .folder "node_modules" (.file "a.swift" (Utf8.encode "let a = b!".toList) .empty)
    (.folder "App" (.file "b.swift" (Utf8.encode "let b = c!".toList)
      (.file "c.py" (Utf8.encode "c = d".toList) .empty)) .empty)

theorem audit_paths_all_of_mixed :
    ∃ auditor, ofPolicy {} = .ok auditor ∧
      auditor.audit mixedDirectory.content?
          (FileSource.all.paths auditor.classifier {} mixedDirectory) none =
        auditor.audit mixedDirectory.content?
          (mixedDirectory.filePaths.filter fun path =>
            path.utf8ByteSize != 4094 && path.utf8ByteSize != 4095) none := by
  rcases exists_ofPolicy_builtin with ⟨auditor, read⟩
  have tree : mixedDirectory.IsTree := ⟨by decide, by decide⟩
  have unanswered : (VersionControl.tracked {}).bind (·.paths?) = none := rfl
  exact ⟨auditor, read,
    (audit_paths_all tree (by decide) (by decide) unanswered auditor none).2.2⟩

end Auditor

namespace Directory

/-- Directories within each other, with a file in the innermost one. -/
def nested (name : String) (content : Bytes) : List String → Directory
  | [] => .file name content .empty
  | outer :: inner => .folder outer (nested name content inner) .empty

section

variable (name : String) (content : Bytes) (folders : List String)

theorem files_nested : (nested name content folders).files = [folders ++ [name]] := by
  induction folders with
  | nil => rw [nested, files, fileEntries, fileEntries, inOrder_singleton, List.nil_append]
  | cons outer inner ih =>
      rw [nested, files, fileEntries, fileEntries, inOrder_singleton, ← files, ih,
        List.map_singleton, List.cons_append]

theorem allNames_nested : (nested name content folders).allNames = folders ++ [name] := by
  induction folders with
  | nil => rfl
  | cons outer inner ih => rw [nested, allNames, ih, allNames, List.append_nil, List.cons_append]

theorem hasDistinctNames_nested : (nested name content folders).HasDistinctNames := by
  induction folders with
  | nil => exact ⟨List.not_mem_nil, trivial⟩
  | cons outer inner ih => exact ⟨List.not_mem_nil, ih, trivial⟩

theorem height_nested : (nested name content folders).height = folders.length := by
  induction folders with
  | nil => rfl
  | cons outer inner ih =>
      rw [nested, height, height, ih, List.length_cons]
      exact Nat.max_eq_left (Nat.zero_le _)

end

/-- A name of many letters and an ending. -/
def longName (letters : Nat) (ending : String) : String :=
  String.ofList (List.replicate letters 'a') ++ ending

section

variable {letters : Nat} {ending : String}

theorem utf8ByteSize_longName (letters : Nat) (ending : String) :
    (longName letters ending).utf8ByteSize = letters + ending.utf8ByteSize := by
  have size : (String.ofList (List.replicate letters 'a')).utf8ByteSize = letters := by
    induction letters with
    | zero => rfl
    | succ letters ih =>
        have width : 'a'.utf8Size = 1 := by decide
        rw [List.replicate_succ, String.ofList_cons, String.utf8ByteSize_append,
          String.utf8ByteSize_singleton, ih, width, Nat.add_comm]
  rw [longName, String.utf8ByteSize_append, size]

theorem toList_longName (letters : Nat) (ending : String) :
    (longName letters ending).toList = List.replicate letters 'a' ++ ending.toList := by
  rw [longName, String.toList_append, String.toList_ofList]

theorem longName_ne {name : String} (size : letters + ending.utf8ByteSize ≠ name.utf8ByteSize) :
    longName letters ending ≠ name := by
  rintro rfl
  exact size (utf8ByteSize_longName letters ending).symm

theorem not_mem_longName {character : Char} (ne : character ≠ 'a')
    (absent : character ∉ ending.toList) : character ∉ (longName letters ending).toList := by
  rw [toList_longName, List.mem_append, not_or]
  exact ⟨fun member => ne (List.eq_of_mem_replicate member), absent⟩

theorem isName_longName (long : 2 < letters) (unbroken : '/' ∉ ending.toList) :
    Path.IsName (longName letters ending) where
  ne_empty := longName_ne (by rw [show "".utf8ByteSize = 0 from rfl]; omega)
  ne_here := longName_ne (by rw [show ".".utf8ByteSize = 1 from rfl]; omega)
  ne_up := longName_ne (by rw [show "..".utf8ByteSize = 2 from rfl]; omega)
  unbroken := not_mem_longName (by decide) unbroken

theorem nameExtension?_longName (letters : Nat) :
    Path.nameExtension? (longName (letters + 1) ".md") = some "md" := by
  have reversed : (longName (letters + 1) ".md").toList.reverse =
      'd' :: 'm' :: '.' :: 'a' :: List.replicate letters 'a' := by
    rw [toList_longName, List.reverse_append, List.reverse_replicate]
    rfl
  rw [Path.nameExtension?, reversed]
  rfl

end

/-- The names of a file whose path has 4094 bytes. -/
def longFile : List String :=
  List.replicate 15 (longName 255 "") ++ [longName 251 ".md"]

/-- A directory with this file only, which is empty. -/
def longDirectory : Directory :=
  nested (longName 251 ".md") [] (List.replicate 15 (longName 255 ""))

theorem files_longDirectory : longDirectory.files = [longFile] :=
  files_nested ..

theorem mem_files_longDirectory : longFile ∈ longDirectory.files := by
  rw [files_longDirectory]
  exact List.mem_singleton_self longFile

theorem forall_mem_longFile {holds : String → Prop} (folder : holds (longName 255 ""))
    (file : holds (longName 251 ".md")) : ∀ name ∈ longFile, holds name := by
  rw [longFile, List.forall_mem_append, List.forall_mem_singleton]
  exact ⟨fun name member => (List.eq_of_mem_replicate member) ▸ folder, file⟩

theorem isName_of_mem_longFile : ∀ name ∈ longFile, Path.IsName name :=
  forall_mem_longFile (isName_longName (by decide) (by decide))
    (isName_longName (by decide) (by decide))

theorem isTree_longDirectory : longDirectory.IsTree where
  distinct := hasDistinctNames_nested ..
  named := by
    rw [longDirectory, allNames_nested]
    exact isName_of_mem_longFile

theorem utf8ByteSize_join_replicate (count : Nat) (folder name : String) :
    (Path.join (List.replicate count folder ++ [name])).utf8ByteSize =
      count * (folder.utf8ByteSize + 1) + name.utf8ByteSize := by
  induction count with
  | zero =>
      rw [List.replicate_zero, List.nil_append, Path.join_singleton, Nat.zero_mul, Nat.zero_add]
  | succ count ih =>
      rw [List.replicate_succ, List.cons_append,
        Path.utf8ByteSize_join_cons (List.append_ne_nil_of_right_ne_nil _ (List.cons_ne_nil _ _)),
        ih, Nat.succ_mul]
      omega

theorem utf8ByteSize_join_longFile : (Path.join longFile).utf8ByteSize = 4094 := by
  rw [longFile, utf8ByteSize_join_replicate, utf8ByteSize_longName, utf8ByteSize_longName]
  rfl

theorem isSome_content?_longFile :
    (longDirectory.content? (Path.join longFile)).isSome = true := by
  have noNull : ∀ name ∈ longFile, '\u0000' ∉ name.toList :=
    forall_mem_longFile (not_mem_longName (by decide) (by decide))
      (not_mem_longName (by decide) (by decide))
  have narrow : ∀ name ∈ longFile, name.utf8ByteSize ≤ Path.maxNameBytes :=
    forall_mem_longFile (by rw [utf8ByteSize_longName]; decide)
      (by rw [utf8ByteSize_longName]; decide)
  have followable : Path.isFollowable (Path.join longFile) = true := by
    rw [Path.isFollowable, utf8ByteSize_join_longFile,
      Path.components_join (ne_nil_of_mem_files mem_files_longDirectory)
        fun name member => (isName_of_mem_longFile name member).unbroken]
    exact Bool.and_eq_true_iff.2 ⟨rfl, by simpa using narrow⟩
  rw [content?_join isTree_longDirectory mem_files_longDirectory noNull followable]
  exact (mem_files_iff isTree_longDirectory.distinct).1 mem_files_longDirectory

end Directory

namespace Auditor

/-- The only file of the directory is scanned if its path is listed, but the walk misses it. -/
theorem filesScanned_longDirectory :
    ∃ auditor, ofPolicy {} = .ok auditor ∧ longDirectory.IsTree ∧
      (∀ name ∈ longDirectory.allNames, '\\' ∉ name.toList) ∧ longDirectory.height ≤ maxDepth ∧
      (auditor.audit longDirectory.content?
        (FileSource.all.paths auditor.classifier {} longDirectory) none).filesScanned = 0 ∧
      (auditor.audit longDirectory.content? longDirectory.filePaths none).filesScanned = 1 := by
  rcases exists_ofPolicy_builtin with ⟨auditor, read⟩
  rcases ofPolicy_eq_ok_iff.1 read with ⟨_, classified, _⟩
  have scan := (Classifier.ofPolicy_eq_ok_iff.1 classified).1
  have plain : ∀ name ∈ longDirectory.allNames, '\\' ∉ name.toList := by
    rw [longDirectory, allNames_nested]
    exact forall_mem_longFile (not_mem_longName (by decide) (by decide))
      (not_mem_longName (by decide) (by decide))
  have shallow : longDirectory.height ≤ maxDepth := by
    rw [longDirectory, height_nested]
    decide
  refine ⟨auditor, read, isTree_longDirectory, plain, shallow, ?_, ?_⟩
  · have unlisted : decide ((Path.join longFile).utf8ByteSize ≤ walkRoom) = false := by
      rw [utf8ByteSize_join_longFile]
      decide
    rw [paths_all_eq isTree_longDirectory plain shallow rfl, files_longDirectory,
      List.filter_singleton, unlisted, Bool.false_and]
    rfl
  · have nonempty := ne_nil_of_mem_files mem_files_longDirectory
    have last : longFile.getLast? = some (longName 251 ".md") := List.getLast?_concat
    have extension : auditor.classifier.isScannableExtension (Path.join longFile) = true := by
      rw [Classifier.isScannableExtension, Path.extension?_join nonempty isName_of_mem_longFile,
        last, Option.bind_some, nameExtension?_longName, scan]
      decide
    have included : ∀ name ∈ longFile, auditor.classifier.isExcludedDir name = false := by
      have sizes : ∀ name ∈ ({} : ScanPolicy).excludedDirs, name.utf8ByteSize < 254 := by decide
      have notExcluded (name : String) (size : 254 ≤ name.utf8ByteSize) :
          auditor.classifier.isExcludedDir name = false := by
        rw [Classifier.isExcludedDir, scan, List.contains_eq_mem, decide_eq_false_iff_not]
        exact fun member => absurd (sizes name member) (Nat.not_lt.2 size)
      exact forall_mem_longFile (notExcluded _ (by rw [utf8ByteSize_longName]; decide))
        (notExcluded _ (by rw [utf8ByteSize_longName]; decide))
    have scannable : auditor.classifier.isScannable (Path.join longFile) = true := by
      rw [Classifier.isScannable, extension, Classifier.isExcludedPath,
        Path.names_join nonempty isName_of_mem_longFile,
        List.any_eq_false.2 fun name member => Bool.eq_false_iff.1 (included name member)]
      rfl
    have scanned : auditor.isScanned longDirectory.content? (Path.join longFile) = true :=
      Bool.and_eq_true_iff.2 ⟨scannable, isSome_content?_longFile⟩
    rw [audit_eq, filePaths, files_longDirectory, List.map_singleton, List.countP_singleton,
      scanned]
    rfl

end Auditor

end Precommit
