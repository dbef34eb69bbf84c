import Precommit.Proofs.Pattern.Overflow
import Precommit.Rule.Set

/-!
# The pattern of commit subjects

Whatever types and scopes a policy names, its pattern text for commit subjects can be
read, and it stands for the start of the text, one of the types, one of the scopes in
parentheses, and a description that begins with a lower-case letter.
-/

namespace Precommit

open Pattern

namespace CommitPolicy

variable (policy : CommitPolicy)

/-- The expression for a commit subject. -/
def subjectExpression : Expression :=
  .sequence
    [.assertion .textStart, .literalChoice (policy.types.map String.toList), .literal '(',
      .literalChoice (policy.scopes.map String.toList), .literal ')', .literal ':',
      .literal ' ', .set 1 (.range 'a' 'z'),
      .repetition 0 none false (.set 0 (.complement (.single '\n'))), .assertion .textEnd]

/-- What follows the scopes in the pattern text. -/
def subjectEnding : List Char :=
  ['\\', ')', ':', ' ', '[', 'a', '-', 'z', ']', '.', '*', '$']

theorem oneOf_eq (texts : List String) :
    oneOf texts = List.intercalate ['|'] ((texts.map String.toList).map escape) := by
  rw [oneOf, List.map_map]
  rfl

theorem toList_subjectText :
    policy.subjectText.toList =
      '^' :: '(' :: '?' :: ':' :: (oneOf policy.types ++
        ')' :: '\\' :: '(' :: '(' :: '?' :: ':' :: (oneOf policy.scopes ++
          ')' :: subjectEnding)) := by
  have opening : "^(?:".toList = ['^', '(', '?', ':'] := by decide +kernel
  have middle : ")\\((?:".toList = [')', '\\', '(', '(', '?', ':'] := by decide +kernel
  have ending : ")\\): [a-z].*$".toList = ')' :: subjectEnding := by decide +kernel
  have parts : policy.subjectText.toList =
      "^(?:".toList ++ oneOf policy.types ++ ")\\((?:".toList ++ oneOf policy.scopes ++
        ")\\): [a-z].*$".toList := String.toList_ofList
  simp only [parts, opening, middle, ending, List.append_assoc, List.cons_append,
    List.nil_append]

end CommitPolicy

namespace Pattern.Reader

variable {reader : Reader}

theorem next?_textStart (flags : reader.flags = {}) (rest : List Char) :
    reader.next? '^' rest = some (reader.push (.assertion .textStart), 0) := by
  simp only [next?, flags]
  rfl

theorem next?_textEnd (flags : reader.flags = {}) (rest : List Char) :
    reader.next? '$' rest = some (reader.push (.assertion .textEnd), 0) := by
  simp only [next?, flags]
  rfl

theorem next?_dot (flags : reader.flags = {}) (rest : List Char) :
    reader.next? '.' rest = some (reader.push (.set 0 (.complement (.single '\n'))), 0) := by
  simp only [next?, flags]
  rfl

theorem next?_lowerCase (flags : reader.flags = {}) :
    reader.next? '[' ['a', '-', 'z', ']', '.', '*', '$'] =
      some (reader.push (.set 1 (.range 'a' 'z')), 4) := by
  have read : Bracket.read? {} ['a', '-', 'z', ']', '.', '*', '$'] =
      some (⟨.range 'a' 'z', 1⟩, 4) := by cbv
  simp only [next?, flags, read]
  rfl

theorem next?_star (flags : reader.flags = {}) (nesting : Nat) (members : CharSet)
    (rest : List Char) :
    (reader.push (.set nesting members)).next? '*' ('$' :: rest) =
      some (reader.push (.repetition 0 none false (.set nesting members)), 0) := by
  rcases reader with ⟨readerFlags, group, around, names, captures⟩
  rcases flags with rfl
  rfl

/-- The end of the pattern text is read as a description in lower case. -/
theorem readFrom?_subjectEnding (flags : reader.flags = {}) :
    reader.readFrom? CommitPolicy.subjectEnding =
      some (((((((reader.push (.literal ')')).push (.literal ':')).push (.literal ' ')).push
        (.set 1 (.range 'a' 'z'))).push
          (.repetition 0 none false (.set 0 (.complement (.single '\n'))))).push
            (.assertion .textEnd))) := by
  rw [CommitPolicy.subjectEnding, readFrom?_cons_of_next (next?_escaped flags _ (by decide)),
    List.drop_succ_cons, List.drop_zero,
    readFrom?_cons_of_next (next?_plain (by exact flags) _ (by decide)), List.drop_zero,
    readFrom?_cons_of_next (next?_plain (by exact flags) _ (by decide)), List.drop_zero,
    readFrom?_cons_of_next (next?_lowerCase (by exact flags))]
  simp only [List.drop_succ_cons, List.drop_zero]
  rw [readFrom?_cons_of_next (next?_dot (by exact flags) _), List.drop_zero,
    readFrom?_cons_of_next (next?_star (by exact flags) _ _ _), List.drop_zero,
    readFrom?_cons_of_next (next?_textEnd (by exact flags) _), List.drop_zero, readFrom?_nil]

end Pattern.Reader

namespace Pattern.Expression

theorem deepest_le {least bound : Nat} {expressions : List Expression} (atLeast : least ≤ bound)
    (each : ∀ expression ∈ expressions, expression.depth ≤ bound) :
    deepest least expressions ≤ bound := by
  induction expressions generalizing least with
  | nil => exact atLeast
  | cons expression rest ih =>
      rw [List.forall_mem_cons] at each
      rw [deepest]
      exact ih (Nat.max_le.2 ⟨atLeast, each.1⟩) each.2

theorem depth_literalText_le (text : List Char) : (literalText text).depth ≤ 1 := by
  unfold literalText ofItems
  split
  · exact Nat.zero_le 1
  · rename_i single
    rcases List.map_eq_singleton_iff.1 single with ⟨character, _, rfl⟩
    exact Nat.zero_le 1
  · rw [depth]
    apply Nat.succ_le_succ
    apply deepest_le (Nat.le_refl 0)
    intro expression member
    rcases List.mem_map.1 member with ⟨character, _, rfl⟩
    exact Nat.le_refl 0

theorem depth_literalChoice_le (texts : List (List Char)) : (literalChoice texts).depth ≤ 3 := by
  have each : ∀ branch ∈ (if texts.isEmpty then [.empty] else texts.map literalText),
      branch.depth ≤ 1 := by
    intro branch member
    split at member
    · rw [List.mem_singleton.1 member]
      exact Nat.zero_le 1
    · rcases List.mem_map.1 member with ⟨text, _, rfl⟩
      exact depth_literalText_le text
  rw [literalChoice, depth]
  generalize (if texts.isEmpty then [.empty] else texts.map literalText) = branches at each
  apply Nat.succ_le_succ
  unfold ofBranches
  split
  · exact Nat.le_succ_of_le (each _ (List.mem_singleton_self _))
  · rw [depth]
    exact Nat.succ_le_succ (deepest_le (Nat.zero_le 1) each)

end Pattern.Expression

namespace CommitPolicy

theorem depth_subjectExpression_le (policy : CommitPolicy) :
    policy.subjectExpression.depth ≤ 4 := by
  have types := Expression.depth_literalChoice_le (policy.types.map String.toList)
  have scopes := Expression.depth_literalChoice_le (policy.scopes.map String.toList)
  rw [subjectExpression, Expression.depth]
  apply Nat.succ_le_succ
  apply Expression.deepest_le (Nat.zero_le 3)
  simp only [List.forall_mem_cons]
  refine ⟨by decide, types, by decide, scopes, by decide, by decide, by decide, by decide,
    by decide, by decide, ?_⟩
  intro expression member
  cases member

/-- The pattern text for commit subjects can be read whatever the policy says. -/
theorem parse?_subjectText (policy : CommitPolicy) :
    Expression.parse? {} policy.subjectText.toList = some policy.subjectExpression := by
  have start : (Reader.start {}).flags = {} := rfl
  have shallow := Nat.le_trans policy.depth_subjectExpression_le (show 4 ≤ 250 by decide)
  have read : (Reader.start {}).readFrom? policy.subjectText.toList = some
      { Reader.start {} with
        group := { outer := {}, parts :=
          [.assertion .textEnd, .repetition 0 none false (.set 0 (.complement (.single '\n'))),
            .set 1 (.range 'a' 'z'), .literal ' ', .literal ':', .literal ')',
            .literalChoice (policy.scopes.map String.toList), .literal '(',
            .literalChoice (policy.types.map String.toList), .assertion .textStart] } } := by
    rw [toList_subjectText, Reader.readFrom?_cons_of_next (Reader.next?_textStart start _),
      List.drop_zero, oneOf_eq, Reader.readFrom?_choice (by exact start),
      Reader.readFrom?_cons_of_next (Reader.next?_escaped (by exact start) _ (by decide)),
      List.drop_succ_cons, List.drop_zero, oneOf_eq, Reader.readFrom?_choice (by exact start),
      Reader.readFrom?_subjectEnding (by exact start)]
    rfl
  rw [Expression.parse?, read]
  exact if_pos shallow

/-- The pattern for a single type does not fit if the type is too long. -/
theorem not_fits_subjectExpression {policy : CommitPolicy} {type : String} {limit : Nat}
    (single : policy.types = [type])
    (large : limit < 32 * (Utf8.encode type.toList).length) :
    policy.subjectExpression.fits (some limit) = false := by
  have nonempty : type.toList ≠ [] := by
    intro empty
    rw [empty] at large
    cases large
  have planned : (Expression.literalChoice (policy.types.map String.toList)).plan =
      .text type.toList := by
    rw [single, ← Expression.plan_literalText nonempty]
    rfl
  rw [Expression.fits, Option.all_some, subjectExpression, Expression.plan, Expression.plans_eq]
  apply Plan.not_fits_sequenceAll _ large
  rw [← planned]
  simp

end CommitPolicy

end Precommit
