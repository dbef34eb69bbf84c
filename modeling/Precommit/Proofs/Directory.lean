import Precommit.Directory

/-!
# Writing files

A file that is written is found again under its path, and nothing else changes: paths
lead to the same places as before, and what leads to another place has the content
that it had.
-/

namespace Precommit

namespace Entry

/-- The inner directory of a directory. -/
def folder? : Entry → Option Directory
  | .folder inner => some inner
  | .file _ => none

/-- The content of a file. -/
def content? : Entry → Option Bytes
  | .folder _ => none
  | .file content => some content

end Entry

namespace Directory

variable {directory changed : Directory}

theorem find?_setFile? {name : String} {content : Bytes}
    (written : directory.setFile? name content = some changed) :
    changed.find? name = some (.file content) ∧
      (∀ other, other ≠ name → changed.find? other = directory.find? other) ∧
      (directory.find? name).bind Entry.folder? = none := by
  induction directory generalizing changed with
  | empty =>
      rw [setFile?, Option.some_inj] at written
      subst written
      refine ⟨by simp [find?], ?_, rfl⟩
      intro other ne
      simp [find?, ne.symm]
  | file head old rest ih =>
      rw [setFile?] at written
      split at written
      · rename_i same
        rw [beq_iff_eq] at same
        subst same
        rw [Option.some_inj] at written
        subst written
        refine ⟨by simp [find?], ?_, by simp [find?, Entry.folder?]⟩
        intro other ne
        simp [find?, ne.symm]
      · rename_i differs
        rcases Option.map_eq_some_iff.1 written with ⟨rest', set, rfl⟩
        rcases ih set with ⟨found, others, free⟩
        refine ⟨?_, ?_, ?_⟩
        · rw [find?, if_neg differs, found]
        · intro other ne
          simp only [find?, others other ne]
        · rw [find?, if_neg differs]
          exact free
  | folder head inner rest _ ih =>
      rw [setFile?] at written
      split at written
      · cases written
      · rename_i differs
        rcases Option.map_eq_some_iff.1 written with ⟨rest', set, rfl⟩
        rcases ih set with ⟨found, others, free⟩
        refine ⟨?_, ?_, ?_⟩
        · rw [find?, if_neg differs, found]
        · intro other ne
          simp only [find?, others other ne]
        · rw [find?, if_neg differs]
          exact free

theorem find?_changeFolder? {name : String} {change : Directory → Option Directory}
    (made : directory.changeFolder? name change = some changed) :
    ∃ inner inner', directory.find? name = some (.folder inner) ∧ change inner = some inner' ∧
      changed.find? name = some (.folder inner') ∧
      ∀ other, other ≠ name → changed.find? other = directory.find? other := by
  induction directory generalizing changed with
  | empty => cases made
  | file head old rest ih =>
      rw [changeFolder?] at made
      split at made
      · cases made
      · rename_i differs
        rcases Option.map_eq_some_iff.1 made with ⟨rest', changed, rfl⟩
        rcases ih changed with ⟨inner, inner', found, changes, found', others⟩
        refine ⟨inner, inner', ?_, changes, ?_, ?_⟩
        · rw [find?, if_neg differs, found]
        · rw [find?, if_neg differs, found']
        · intro other ne
          simp only [find?, others other ne]
  | folder head within rest _ ih =>
      rw [changeFolder?] at made
      split at made
      · rename_i same
        rw [beq_iff_eq] at same
        subst same
        rcases Option.map_eq_some_iff.1 made with ⟨inner', changes, rfl⟩
        refine ⟨within, inner', by simp [find?], changes, by simp [find?], ?_⟩
        intro other ne
        simp [find?, ne.symm]
      · rename_i differs
        rcases Option.map_eq_some_iff.1 made with ⟨rest', changed, rfl⟩
        rcases ih changed with ⟨inner, inner', found, changes, found', others⟩
        refine ⟨inner, inner', ?_, changes, ?_, ?_⟩
        · rw [find?, if_neg differs, found]
        · rw [find?, if_neg differs, found']
        · intro other ne
          simp only [find?, others other ne]

/-- Whether a list of names leads to a directory. -/
def isFolderAt (directory : Directory) (names : List String) : Bool :=
  ((directory.entryAt? names).bind Entry.folder?).isSome

/-- The content of the file that a list of names leads to. -/
def contentAt? (directory : Directory) (names : List String) : Option Bytes :=
  (directory.entryAt? names).bind Entry.content?

theorem entryAt?_cons_congr {name : String} (same : changed.find? name = directory.find? name)
    (rest : List String) : changed.entryAt? (name :: rest) = directory.entryAt? (name :: rest) := by
  rw [entryAt?, entryAt?, same]

theorem contentAt?_cons_congr {name : String}
    (same : changed.find? name = directory.find? name) (rest : List String) :
    changed.contentAt? (name :: rest) = directory.contentAt? (name :: rest) := by
  rw [contentAt?, contentAt?, entryAt?_cons_congr same]

theorem entryAt?_cons_folder {name : String} {inner : Directory}
    (found : directory.find? name = some (.folder inner)) (rest : List String) :
    directory.entryAt? (name :: rest) = inner.entryAt? rest := by
  rw [entryAt?, found]

theorem isFolderAt_cons_of_not_folder {name : String}
    (free : (directory.find? name).bind Entry.folder? = none) (rest : List String) :
    directory.isFolderAt (name :: rest) = false := by
  rw [isFolderAt, entryAt?]
  cases found : directory.find? name with
  | none => rfl
  | some entry =>
      rw [found] at free
      cases entry with
      | folder inner => cases free
      | file content =>
          simp only
          split <;> rfl

theorem contentAt?_cons_of_not_folder {name : String}
    (free : (directory.find? name).bind Entry.folder? = none) {rest : List String}
    (deeper : rest ≠ []) : directory.contentAt? (name :: rest) = none := by
  rw [contentAt?, entryAt?]
  cases found : directory.find? name with
  | none => rfl
  | some entry =>
      rw [found] at free
      cases entry with
      | folder inner => cases free
      | file content =>
          simp only [List.isEmpty_iff, if_neg deeper]
          rfl

/-- A file has been set: its content is at its place, and nothing else has changed. -/
structure Sets (directory changed : Directory) (content : Bytes) (names : List String) : Prop where
  content : changed.contentAt? names = some content
  others : ∀ others, others ≠ names → changed.contentAt? others = directory.contentAt? others
  folders : ∀ others, changed.isFolderAt others = directory.isFolderAt others

theorem sets_of_setFile? {name : String} {content : Bytes}
    (written : directory.setFile? name content = some changed) :
    Sets directory changed content [name] := by
  rcases find?_setFile? written with ⟨found, others, free⟩
  have free' : (changed.find? name).bind Entry.folder? = none := by
    rw [found]
    rfl
  constructor
  · rw [contentAt?, entryAt?, found]
    rfl
  · intro names ne
    cases names with
    | nil => rfl
    | cons other rest =>
        by_cases same : other = name
        · subst same
          have deeper : rest ≠ [] := by
            rintro rfl
            exact ne rfl
          rw [contentAt?_cons_of_not_folder free' deeper,
            contentAt?_cons_of_not_folder free deeper]
        · exact contentAt?_cons_congr (others other same) rest
  · intro names
    cases names with
    | nil => rfl
    | cons other rest =>
        by_cases same : other = name
        · subst same
          rw [isFolderAt_cons_of_not_folder free', isFolderAt_cons_of_not_folder free]
        · rw [isFolderAt, isFolderAt, entryAt?_cons_congr (others other same)]

theorem Sets.outer {name : String} {inner inner' : Directory} {content : Bytes}
    {names : List String} (sets : Sets inner inner' content names)
    (found : directory.find? name = some (.folder inner))
    (found' : changed.find? name = some (.folder inner'))
    (others : ∀ other, other ≠ name → changed.find? other = directory.find? other) :
    Sets directory changed content (name :: names) := by
  constructor
  · rw [contentAt?, entryAt?_cons_folder found']
    exact sets.content
  · intro names' ne
    cases names' with
    | nil => rfl
    | cons other rest =>
        by_cases same : other = name
        · subst same
          rw [contentAt?, contentAt?, entryAt?_cons_folder found', entryAt?_cons_folder found]
          apply sets.others
          rintro rfl
          exact ne rfl
        · exact contentAt?_cons_congr (others other same) rest
  · intro names'
    cases names' with
    | nil => rfl
    | cons other rest =>
        by_cases same : other = name
        · subst same
          rw [isFolderAt, isFolderAt, entryAt?_cons_folder found', entryAt?_cons_folder found]
          exact sets.folders rest
        · rw [isFolderAt, isFolderAt, entryAt?_cons_congr (others other same)]

theorem sets_of_setFileAt? {content : Bytes} {names : List String}
    (written : directory.setFileAt? content names = some changed) :
    Sets directory changed content names := by
  induction names generalizing directory changed with
  | nil => cases written
  | cons name rest ih =>
      cases rest with
      | nil => exact sets_of_setFile? written
      | cons second rest =>
          have deeper : directory.changeFolder? name
              (fun inner => inner.setFileAt? content (second :: rest)) = some changed := written
          rcases find?_changeFolder? deeper with ⟨inner, inner', found, changes, found', others⟩
          exact (ih changes).outer found found' others

theorem locateFrom_congr
    (folders : ∀ names, changed.isFolderAt names = directory.isFolderAt names)
    (reached : Place) (components : List String) :
    changed.locateFrom reached components = directory.locateFrom reached components := by
  induction components generalizing reached with
  | nil => rfl
  | cons component rest ih =>
      unfold locateFrom
      split
      · exact ih reached
      · split
        · cases reached with
          | outside => exact ih .outside
          | inside names =>
              cases names with
              | nil => exact ih .outside
              | cons name names => exact ih _
        · cases reached with
          | outside => rfl
          | inside names =>
              simp only
              split
              · rfl
              · have same := folders (names ++ [component])
                rw [isFolderAt, isFolderAt] at same
                rw [ih]
                generalize changed.entryAt? (names ++ [component]) = entry at same
                generalize directory.entryAt? (names ++ [component]) = entry' at same
                rcases entry with _ | _ | _ <;> rcases entry' with _ | _ | _ <;>
                  first | rfl | cases same

theorem locate?_congr
    (folders : ∀ names, changed.isFolderAt names = directory.isFolderAt names) (path : String) :
    changed.locate? path = directory.locate? path := by
  unfold locate?
  split
  · rfl
  · exact locateFrom_congr folders _ _

theorem content?_eq_of_locate? {path : String} {names : List String}
    (located : directory.locate? path = some (.inside names)) :
    directory.content? path = directory.contentAt? names := by
  simp only [content?, lookup?, located, contentAt?]
  cases directory.entryAt? names with
  | none => rfl
  | some entry => cases entry <;> rfl

/--
A file that is written has the given content, and only it: every path leads to the same
place as before, and all that lead to other places find what they found there.
-/
theorem store?_spec {path : String} {content : Bytes}
    (written : directory.store? path content = some changed) :
    changed.content? path = some content ∧
      (∀ other, changed.locate? other = directory.locate? other) ∧
      ∀ other, directory.locate? other ≠ directory.locate? path →
        changed.content? other = directory.content? other := by
  unfold store? at written
  split at written
  · rename_i names located
    have sets := sets_of_setFileAt? written
    have places := locate?_congr sets.folders
    refine ⟨?_, places, ?_⟩
    · rw [content?_eq_of_locate? ((places path).trans located), sets.content]
    · intro other elsewhere
      cases found : directory.locate? other with
      | none => rw [content?, content?, lookup?, lookup?, places, found]
      | some place =>
          cases place with
          | outside => rw [content?, content?, lookup?, lookup?, places, found]
          | inside names' =>
              rw [content?_eq_of_locate? ((places other).trans found),
                content?_eq_of_locate? found]
              apply sets.others
              rintro rfl
              exact elsewhere (found.trans located.symm)
  · cases written

end Directory

end Precommit
