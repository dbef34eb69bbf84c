import Precommit.Proofs.Audit.Exemption
import Precommit.Proofs.Glob.Subtrees
import Precommit.Proofs.Path

/-!
# Paths that are exempt from the scan for secrets

Under the built-in policy the scan for secrets leaves out what is in the documentation or in a
directory of references of some skill. With slashes for backslashes and without any `./` at the
start, such a path begins with `docs/`, or it begins with `.claude/skills/` and `/references/`
occurs in it from that last slash on (`isSecretExempt_builtin_iff`).
-/

namespace Precommit

namespace Classifier

open GlobPart

theorem parse?_docs :
    Glob.parse? "docs/**".toList = some (.ofParts (literals "docs".toList ++ [trailing])) :=
  @Glob.parse?_below "docs".toList (by decide +kernel)

theorem parse?_references :
    Glob.parse? ".claude/skills/**/references/**".toList =
      some (.ofParts (literals ".claude/skills".toList ++ middle :: literals "references".toList ++
        [trailing])) :=
  @Glob.parse?_below_named ".claude/skills".toList "references".toList (by decide +kernel)
    (by decide +kernel)

/--
A path is exempt exactly if what remains of it, with slashes for backslashes and without any `./`
at the start, begins with `docs/`, or begins with `.claude/skills` and goes on with a slash from
which on `/references/` occurs.
-/
theorem isSecretExempt_builtin_iff :
    ∃ classifier, ofPolicy {} = .ok classifier ∧ ∀ path : String, ∃ count rest,
      (path.toList.map fun character => if character = '\\' then '/' else character) =
        (List.replicate count "./".toList).flatten ++ rest ∧
      ¬"./".toList <+: rest ∧
      (classifier.isSecretExempt path = true ↔
        "docs/".toList <+: rest ∨
          ∃ below, rest = ".claude/skills".toList ++ below ∧ "/".toList <+: below ∧
            "/references/".toList <:+: below) := by
  rcases exists_ofPolicy_builtin with ⟨classifier, read⟩
  refine ⟨classifier, read, fun path => ?_⟩
  have slashes : (path.toList.map fun character => if character == '\\' then '/' else character) =
      path.toList.map fun character => if character = '\\' then '/' else character := by
    simp only [beq_iff_eq]
  have normal : (Path.normalize path).toList = Path.dropHere
      (path.toList.map fun character => if character = '\\' then '/' else character) := by
    rw [← slashes]
    exact String.toList_ofList
  rcases Path.exists_dropHere
    (path.toList.map fun character => if character = '\\' then '/' else character) with
    ⟨count, split, stops⟩
  rw [← normal] at split stops
  refine ⟨count, (Path.normalize path).toList, split, stops, ?_⟩
  rw [isSecretExempt_eq_names read, Exemption.names]
  change (List.any ["docs/**", ".claude/skills/**/references/**"] fun text =>
    (Glob.parse? text.toList).any fun glob => glob.isMatch (Path.normalize path).toList) =
      true ↔ _
  rw [List.any_cons, List.any_cons, List.any_nil, Bool.or_false, parse?_docs,
    parse?_references, Option.any_some, Option.any_some, Bool.or_eq_true,
    Glob.isMatch_below_iff, Glob.isMatch_below_named_iff]
  rfl

end Classifier

end Precommit
