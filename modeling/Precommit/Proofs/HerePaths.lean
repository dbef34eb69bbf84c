import Mathlib.Data.List.Basic
import Precommit.Classifier
import Precommit.Proofs.Path

/-!
# Paths with `./` in front

A `./` in front of a path adds a component that is no step, so it leads to what the path leads
to. Nothing that a classifier asks of a path depends on it, however often it is there
(`classification_here`). Where the text of the path counts, it is stripped in a loop, which
ends with the normalized path and nothing else.
-/

namespace Precommit

namespace Path

/-! ### The steps of a path -/

theorem components_here (path : String) : components ("./" ++ path) = "." :: components path := by
  have spelled : ("./" ++ path).toList = '.' :: '/' :: path.toList :=
    String.toList_append
  have pieces : Text.split '/' ('.' :: '/' :: path.toList) =
      ['.'] :: Text.split '/' path.toList :=
    rfl
  rw [components, spelled, pieces, List.map_cons]
  rfl

@[simp]
theorem steps_here (path : String) : steps ("./" ++ path) = steps path := by
  rw [steps, components_here, List.filter_cons_of_neg (by decide)]
  rfl

@[simp]
theorem names_here (path : String) : names ("./" ++ path) = names path := by
  rw [names, steps_here, names]

@[simp]
theorem baseName?_here (path : String) : baseName? ("./" ++ path) = baseName? path := by
  rw [baseName?, steps_here, baseName?]

@[simp]
theorem extension?_here (path : String) : extension? ("./" ++ path) = extension? path := by
  rw [extension?, baseName?_here, extension?]

/-! ### The normalized path -/

/-- The characters of the path, with slashes for backslashes. -/
def slashed (path : String) : List Char :=
  path.toList.map fun character => if character == '\\' then '/' else character

theorem toList_normalize (path : String) : (normalize path).toList = dropHere (slashed path) :=
  String.toList_ofList

@[simp]
theorem normalize_here (path : String) : normalize ("./" ++ path) = normalize path := by
  have spelled : slashed ("./" ++ path) = '.' :: '/' :: slashed path := by
    rw [slashed, String.toList_append, List.map_append]
    rfl
  rw [← String.toList_inj, toList_normalize, toList_normalize, spelled, dropHere]

theorem slashed_normalize (path : String) : slashed (normalize path) = (normalize path).toList := by
  have plain : ∀ character ∈ (normalize path).toList,
      (if character == '\\' then '/' else character) = character := by
    intro character member
    refine if_neg fun backslash => noBackslash_normalize path ?_
    rwa [beq_iff_eq.1 backslash] at member
  rw [slashed, List.map_congr_left plain, List.map_id']

theorem not_here_prefix_normalize (path : String) : ¬"./".toList <+: (normalize path).toList := by
  rw [toList_normalize]
  rcases exists_dropHere (slashed path) with ⟨_, _, stops⟩
  exact stops

theorem normalize_normalize (path : String) : normalize (normalize path) = normalize path := by
  rw [← String.toList_inj, toList_normalize, slashed_normalize]
  apply dropHere_eq_self
  rintro rest here
  exact not_here_prefix_normalize path ⟨rest, here.symm⟩

/-! ### The loop that strips `./` -/

/-- What follows a `./` at the start, if there is one. -/
def stripHere? (path : List Char) : Option (List Char) :=
  "./".toList.isPrefixOf? path

/-- A run of the loop: in so many turns, each of which strips a `./`, the path comes to its end. -/
inductive Strips : Nat → List Char → List Char → Prop
  | stop {path : List Char} (ends : stripHere? path = none) : Strips 0 path path
  | turn {turns : Nat} {path rest remains : List Char} (stripped : stripHere? path = some rest)
      (later : Strips turns rest remains) : Strips (turns + 1) path remains

theorem stripHere?_here (rest : List Char) : stripHere? ('.' :: '/' :: rest) = some rest :=
  List.isPrefixOf?_eq_some_iff_append_eq.2 rfl

theorem stripHere?_eq_none {path : List Char} (elsewhere : ∀ rest, path ≠ '.' :: '/' :: rest) :
    stripHere? path = none := by
  rw [Option.eq_none_iff_forall_ne_some]
  intro rest stripped
  exact elsewhere rest (List.isPrefixOf?_eq_some_iff_append_eq.1 stripped).symm

/-- The loop has one run on every path. It takes a turn for every two characters at most. -/
theorem exists_strips_iff (path : List Char) :
    ∃ turns ≤ path.length / 2, ∀ turns' remains,
      Strips turns' path remains ↔ turns' = turns ∧ remains = dropHere path := by
  induction path using dropHere.induct with
  | case1 rest ih =>
      rcases ih with ⟨turns, bound, runs⟩
      refine ⟨turns + 1, ?_, fun turns' remains => ?_⟩
      · simp only [List.length_cons]
        omega
      · rw [dropHere]
        constructor
        · intro run
          cases run with
          | stop ends =>
              rw [stripHere?_here] at ends
              cases ends
          | turn stripped later =>
              rw [stripHere?_here, Option.some_inj] at stripped
              subst stripped
              rcases (runs _ _).1 later with ⟨rfl, rfl⟩
              exact ⟨rfl, rfl⟩
        · rintro ⟨rfl, rfl⟩
          exact .turn (stripHere?_here rest) ((runs _ _).2 ⟨rfl, rfl⟩)
  | case2 path elsewhere =>
      have ends := stripHere?_eq_none elsewhere
      refine ⟨0, Nat.zero_le _, fun turns' remains => ?_⟩
      rw [dropHere_eq_self elsewhere]
      constructor
      · intro run
        cases run with
        | stop => exact ⟨rfl, rfl⟩
        | turn stripped =>
            rw [ends] at stripped
            cases stripped
      · rintro ⟨rfl, rfl⟩
        exact .stop ends

/-- What one `./` in front of a path does not change is not changed by any number of them. -/
theorem view_here {Value : Type} {view : String → Value}
    (same : ∀ path, view ("./" ++ path) = view path) (count : Nat) (path : String) :
    view (String.join (List.replicate count "./") ++ path) = view path := by
  induction count with
  | zero => rw [List.replicate_zero, String.join_nil, String.empty_append]
  | succ count ih => rw [List.replicate_succ, String.join_cons, String.append_assoc, same, ih]

end Path

namespace Classifier

variable (classifier : Classifier) (path : String)

/-! ### The answers of a classifier -/

theorem isGovernanceFile_here :
    classifier.isGovernanceFile ("./" ++ path) = classifier.isGovernanceFile path := by
  rw [isGovernanceFile, Path.baseName?_here, isGovernanceFile]

theorem isScannableExtension_here :
    classifier.isScannableExtension ("./" ++ path) = classifier.isScannableExtension path := by
  rw [isScannableExtension, Path.extension?_here, isScannableExtension]

theorem isExcludedPath_here :
    classifier.isExcludedPath ("./" ++ path) = classifier.isExcludedPath path := by
  rw [isExcludedPath, Path.names_here, isExcludedPath]

theorem isScannable_here :
    classifier.isScannable ("./" ++ path) = classifier.isScannable path := by
  rw [isScannable, isScannableExtension_here, isExcludedPath_here, isScannable]

theorem isSourceFile_here :
    classifier.isSourceFile ("./" ++ path) = classifier.isSourceFile path := by
  rw [isSourceFile, Path.extension?_here, isSourceFile]

theorem isTestFile_here :
    classifier.isTestFile ("./" ++ path) = classifier.isTestFile path := by
  rw [isTestFile, Path.baseName?_here, isTestFile]

theorem isSecretExempt_here :
    classifier.isSecretExempt ("./" ++ path) = classifier.isSecretExempt path := by
  rw [isSecretExempt, Path.normalize_here, isSecretExempt]

/--
A classifier answers alike for a path and for the path with any number of `./` in front. The
loop that strips them ends on every path, and always with the normalized path: the end of the
path with slashes for backslashes that does not begin with `./`. Normalizing it again changes
nothing.
-/
theorem classification_here (classifier : Classifier) (path : String) (count : Nat) :
    let longer := String.join (List.replicate count "./") ++ path
    (classifier.isGovernanceFile longer = classifier.isGovernanceFile path ∧
      classifier.isScannableExtension longer = classifier.isScannableExtension path ∧
      classifier.isExcludedPath longer = classifier.isExcludedPath path ∧
      classifier.isScannable longer = classifier.isScannable path ∧
      classifier.isSourceFile longer = classifier.isSourceFile path ∧
      classifier.isTestFile longer = classifier.isTestFile path ∧
      classifier.isSecretExempt longer = classifier.isSecretExempt path) ∧
    (∃ turns ≤ path.length / 2, ∀ turns' remains,
      Path.Strips turns' (Path.slashed path) remains ↔
        turns' = turns ∧ remains = (Path.normalize path).toList) ∧
    '\\' ∉ (Path.normalize path).toList ∧
    ¬"./".toList <+: (Path.normalize path).toList ∧
    (Path.normalize path).toList <:+ Path.slashed path ∧
    Path.normalize (Path.normalize path) = Path.normalize path := by
  intro longer
  have same {view : String → Bool} (once : ∀ path, view ("./" ++ path) = view path) :
      view longer = view path :=
    Path.view_here once count path
  refine ⟨⟨same classifier.isGovernanceFile_here, same classifier.isScannableExtension_here,
    same classifier.isExcludedPath_here, same classifier.isScannable_here,
    same classifier.isSourceFile_here, same classifier.isTestFile_here,
    same classifier.isSecretExempt_here⟩, ?_, Path.noBackslash_normalize path,
    Path.not_here_prefix_normalize path, ?_, Path.normalize_normalize path⟩
  · have length : (Path.slashed path).length = path.length := by
      rw [Path.slashed, List.length_map, String.length_toList]
    rw [Path.toList_normalize, ← length]
    exact Path.exists_strips_iff (Path.slashed path)
  · rw [Path.toList_normalize]
    exact Path.dropHere_suffix (Path.slashed path)

end Classifier

end Precommit
