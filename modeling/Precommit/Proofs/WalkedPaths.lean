import Precommit.Proofs.Walk

/-!
# The paths of the files that the walk finds

The walk finds each file once, but the path it lists for a file has slashes for the
backslashes in the names of the file. The path leads to the file exactly if there are none
(`paths_walked`). With them it may lead nowhere or to another file that is listed too.
-/

namespace Precommit

namespace Path

theorem join_components (path : String) : join (components path) = path := by
  rw [← String.toList_inj, toList_join, components, Text.split_eq_splitOn, List.map_map]
  have texts : String.toList ∘ String.ofList = id := funext fun _ => String.toList_ofList
  rw [texts, List.map_id, List.intercalate_splitOn]

theorem toList_subset_join {names : List String} {name : String} (member : name ∈ names) :
    name.toList ⊆ (join names).toList := by
  induction names with
  | nil => cases member
  | cons first rest ih =>
      rcases List.mem_cons.1 member with rfl | inRest
      · exact (prefix_join name rest).subset
      · rw [join_cons (List.ne_nil_of_mem inRest), String.toList_append]
        exact List.subset_append_of_subset_right _ (ih inRest)

/-- The characters of a component are characters of the path. -/
theorem toList_subset_of_mem_components {path component : String}
    (member : component ∈ components path) : component.toList ⊆ path.toList := by
  have inJoin := toList_subset_join member
  rwa [join_components] at inJoin

end Path

namespace Directory

variable {directory : Directory} {names : List String}

/-- What is true of the names in every directory that is stored. -/
structure IsStored (directory : Directory) : Prop extends directory.IsTree where
  noNull : ∀ name ∈ directory.allNames, '\u0000' ∉ name.toList
  narrow : ∀ name ∈ directory.allNames, name.utf8ByteSize ≤ Path.maxNameBytes

/-- There is no way back from outside. -/
theorem locateFrom_outside {components : List String} :
    directory.locateFrom .outside components ≠ some (.inside names) := by
  induction components with
  | nil => exact fun located => by cases located
  | cons component rest ih =>
      unfold locateFrom
      split
      · exact ih
      · split
        · exact ih
        · exact fun located => by cases located

/-- A path leads to names that are among its components. -/
theorem subset_of_locateFrom {reached components : List String}
    (located : directory.locateFrom (.inside reached) components = some (.inside names)) :
    names ⊆ reached ++ components := by
  induction components generalizing reached with
  | nil =>
      rw [locateFrom, Option.some.injEq, Place.inside.injEq] at located
      rw [List.append_nil, located]
      exact List.Subset.refl names
  | cons component rest ih =>
      have later {reached' : List String} (among : reached' ⊆ reached ++ [component])
          (located : directory.locateFrom (.inside reached') rest = some (.inside names)) :
          names ⊆ reached ++ component :: rest := by
        rw [List.append_cons]
        exact fun name inNames => List.mem_append.2 <|
          (List.mem_append.1 (ih located inNames)).imp_left fun inReached => among inReached
      unfold locateFrom at located
      split at located
      · exact later (List.subset_append_left _ _) located
      · split at located
        · cases reached with
          | nil => exact absurd located locateFrom_outside
          | cons first others =>
              exact later (List.subset_append_of_subset_left _ (List.dropLast_subset _)) located
        · simp only at located
          split at located
          · rename_i last
            rw [Option.some.injEq, Place.inside.injEq] at located
            rw [← located, List.isEmpty_iff.1 last]
            exact List.Subset.refl _
          · split at located
            · exact later (List.Subset.refl _) located
            · cases located

theorem subset_components_of_locate? {path : String}
    (located : directory.locate? path = some (.inside names)) : names ⊆ Path.components path := by
  unfold locate? at located
  split at located
  · cases located
  · split at located
    · exact absurd located locateFrom_outside
    · have among := subset_of_locateFrom located
      rwa [List.nil_append] at among

theorem isFollowable_join (stored : directory.IsStored) (member : names ∈ directory.files)
    (fits : (Path.join names).utf8ByteSize ≤ walkRoom) :
    Path.isFollowable (Path.join names) = true := by
  have among := subset_allNames_of_mem_files member
  have most : walkRoom ≤ Path.maxBytes := by decide
  rw [Path.isFollowable, decide_eq_true (fits.trans most), Bool.true_and,
    Path.components_join (ne_nil_of_mem_files member)
      fun name inNames => (stored.named name (among inNames)).unbroken]
  simpa using fun name inNames => stored.narrow name (among inNames)

/-- The path that is listed for a file leads to the file if there is nothing to rewrite. -/
theorem locate?_normalize_join_iff (stored : directory.IsStored) (member : names ∈ directory.files)
    (fits : (Path.join names).utf8ByteSize ≤ walkRoom) :
    directory.locate? (Path.normalize (Path.join names)) = some (.inside names) ↔
      ∀ name ∈ names, '\\' ∉ name.toList := by
  have among := subset_allNames_of_mem_files member
  constructor
  · intro located name inNames backslash
    have component := subset_components_of_locate? located inNames
    have inPath := Path.toList_subset_of_mem_components component backslash
    exact Path.noBackslash_normalize _ inPath
  · intro plain
    rw [Path.normalize_join (fun name inNames => stored.named name (among inNames)) plain]
    have noNull (name : String) (inNames : name ∈ names) : '\u0000' ∉ name.toList :=
      stored.noNull name (among inNames)
    exact locate?_join stored.toIsTree member noNull (isFollowable_join stored member fits)

theorem mem_walkedFiles_iff {classifier : Classifier} :
    names ∈ directory.walkedFiles classifier ↔
      names ∈ directory.files ∧ (Path.join names).utf8ByteSize ≤ walkRoom ∧
        names.length ≤ maxDepth + 1 ∧ classifier.reaches names = true := by
  rw [walkedFiles, List.mem_filter, Bool.and_eq_true, Bool.and_eq_true, decide_eq_true_eq,
    decide_eq_true_eq]

end Directory

namespace FileSource

open Directory

variable {directory : Directory} {versionControl : VersionControl}

/--
Without an answer from the version control, the listed paths are those of files of the
directory, of each at most once. A path leads to its file exactly if no name of the file has
a backslash in it. If that is so of all of them, then no path is listed twice, and each can
be read.
-/
theorem paths_walked (stored : directory.IsStored)
    (unanswered : versionControl.tracked.bind (·.paths?) = none) (classifier : Classifier) :
    let walked := directory.walkedFiles classifier
    let listed := FileSource.all.paths classifier versionControl directory
    listed = walked.map (fun names => Path.normalize (Path.join names)) ∧
      walked.Nodup ∧
      (∀ names ∈ walked, (directory.contentAt? names).isSome = true ∧
        (directory.locate? (Path.normalize (Path.join names)) = some (.inside names) ↔
          ∀ name ∈ names, '\\' ∉ name.toList)) ∧
      ((∀ names ∈ walked, ∀ name ∈ names, '\\' ∉ name.toList) →
        listed.Nodup ∧ ∀ path ∈ listed, (directory.content? path).isSome = true) := by
  intro walked listed
  have paths : listed = walked.map fun names => Path.normalize (Path.join names) :=
    paths_unanswered stored.toIsTree unanswered classifier
  have once : walked.Nodup := (nodup_files stored.distinct).filter _
  have found (names : List String) (member : names ∈ walked) :
      (directory.contentAt? names).isSome = true :=
    (mem_files_iff stored.distinct).1 (mem_walkedFiles_iff.1 member).1
  have leads (names : List String) (member : names ∈ walked) :
      directory.locate? (Path.normalize (Path.join names)) = some (.inside names) ↔
        ∀ name ∈ names, '\\' ∉ name.toList := by
    rcases mem_walkedFiles_iff.1 member with ⟨isFile, fits, _⟩
    exact locate?_normalize_join_iff stored isFile fits
  refine ⟨paths, once, fun names member => ⟨found names member, leads names member⟩, ?_⟩
  intro plain
  have located (names : List String) (member : names ∈ walked) :=
    (leads names member).2 (plain names member)
  rw [paths]
  constructor
  · refine once.map_on fun names member names' member' same => ?_
    have place := located names member
    rw [same, located names' member', Option.some.injEq, Place.inside.injEq] at place
    exact place.symm
  · intro path inPaths
    rcases List.mem_map.1 inPaths with ⟨names, member, rfl⟩
    rw [content?_eq_of_locate? (located names member)]
    exact found names member

/-- A file in a directory and a file beside it are listed once each, and both can be read. -/
theorem paths_walked_plain :
    let directory := Directory.folder "a" (.file "b.md" [] .empty) (.file "c.md" [] .empty)
    let listed := FileSource.all.paths { scan := {}, secretExempt := [] } {} directory
    directory.IsStored ∧ listed = ["a/b.md", "c.md"] ∧ listed.Nodup ∧
      ∀ path ∈ listed, (directory.content? path).isSome = true := by
  intro directory listed
  have stored : directory.IsStored := ⟨⟨by decide, by decide⟩, by decide, by decide⟩
  have files : directory.files = [["a", "b.md"], ["c.md"]] := by
    simp only [directory, Directory.files, fileEntries, inOrder_singleton]
    exact inOrder_of_pairwise (by decide)
  have walked : directory.walkedFiles { scan := {}, secretExempt := [] } =
      [["a", "b.md"], ["c.md"]] := by
    rw [walkedFiles, files]
    decide +kernel
  rcases @paths_walked directory {} stored rfl { scan := {}, secretExempt := [] } with
    ⟨paths, _, _, plain⟩
  rw [walked] at paths plain
  exact ⟨stored, paths.trans (by decide), plain (by decide)⟩

/--
A file with a backslash in its name is listed under the path of another file, which is then
listed twice; without the other file, nothing can be read under this path.
-/
theorem paths_walked_backslash :
    let ambiguous := Directory.folder "a" (.file "b.md" [] .empty) (.file "a\\b.md" [] .empty)
    let dangling := Directory.file "a\\b.md" [] .empty
    let listed := FileSource.all.paths { scan := {}, secretExempt := [] } {}
    ambiguous.IsStored ∧ listed ambiguous = ["a/b.md", "a/b.md"] ∧
      dangling.IsStored ∧ listed dangling = ["a/b.md"] ∧ dangling.content? "a/b.md" = none := by
  intro ambiguous dangling listed
  have stored : ambiguous.IsStored := ⟨⟨by decide, by decide⟩, by decide, by decide⟩
  have stored' : dangling.IsStored := ⟨⟨by decide, by decide⟩, by decide, by decide⟩
  have files : ambiguous.files = [["a", "b.md"], ["a\\b.md"]] := by
    simp only [ambiguous, Directory.files, fileEntries, inOrder_singleton]
    exact inOrder_of_pairwise (by decide)
  have files' : dangling.files = [["a\\b.md"]] := inOrder_singleton ..
  refine ⟨stored, ?_, stored', ?_, by decide⟩
  · refine (paths_unanswered stored.toIsTree rfl _).trans ?_
    rw [walkedFiles, files]
    decide +kernel
  · refine (paths_unanswered stored'.toIsTree rfl _).trans ?_
    rw [walkedFiles, files']
    decide +kernel

end FileSource

end Precommit
