import Mathlib.Data.List.Basic
import Mathlib.Data.List.Induction
import Precommit.Proofs.Pattern.Resumption
import Precommit.Proofs.Text.Utf8
import Precommit.Rule.Builtin

/-!
# Text around a match

Characters around a text make no difference to a pattern if they look like the ends of the
text to all of its assertions, and if no match is empty or has one of them as its first or
last character: then every match lies in the text itself (`isMatch_surrounded`). The built-in
patterns are like that with respect to spaces and tabs.
-/

namespace Precommit

theorem any_getLast?_append {leading : List Char} {holds : Char → Bool}
    (fails : ∀ character ∈ leading, holds character = false) (text : List Char) :
    (leading ++ text).getLast?.any holds = text.getLast?.any holds := by
  rw [List.getLast?_append]
  cases text.getLast? with
  | some character => rfl
  | none =>
      cases last : leading.getLast? with
      | none => rfl
      | some character => exact fails character (List.mem_of_getLast? last)

theorem any_head?_append {trailing : List Char} {holds : Char → Bool}
    (fails : ∀ character ∈ trailing, holds character = false) (text : List Char) :
    (text ++ trailing).head?.any holds = text.head?.any holds := by
  rw [List.head?_append]
  cases text.head? with
  | some character => rfl
  | none =>
      cases first : trailing.head? with
      | none => rfl
      | some character => exact fails character (List.mem_of_mem_head? first)

/-- A stretch that begins and ends with characters of a text lies in it. -/
theorem exists_within_of_append_eq {leading text trailing before stretch after : List Char}
    (split : leading ++ text ++ trailing = before ++ stretch ++ after) (nonempty : stretch ≠ [])
    (first : ∀ character, stretch.head? = some character → character ∉ leading)
    (last : ∀ character, stretch.getLast? = some character → character ∉ trailing) :
    ∃ before' after', before = leading ++ before' ∧ after = after' ++ trailing ∧
      text = before' ++ stretch ++ after' := by
  have begins : ∃ before', before = leading ++ before' := by
    rw [List.append_assoc, List.append_assoc] at split
    rcases List.append_eq_append_iff.1 split with ⟨before', same, _⟩ | ⟨surplus, same, rest⟩
    · exact ⟨before', same⟩
    · cases surplus with
      | nil => exact ⟨[], by rw [same, List.append_nil, List.append_nil]⟩
      | cons character surplus =>
          have head : stretch.head? = some character := by
            have heads := congrArg List.head? rest
            rwa [List.head?_append_of_ne_nil _ nonempty, List.cons_append, List.head?_cons]
              at heads
          exact absurd (by simp [same]) (first character head)
  rcases begins with ⟨before', rfl⟩
  have split' : text ++ trailing = before' ++ stretch ++ after := by simpa using split
  rcases List.append_eq_append_iff.1 split' with ⟨surplus, same, rest⟩ | ⟨after', same, ends⟩
  · cases surplus using List.reverseRecOn with
    | nil =>
        rw [List.append_nil] at same
        exact ⟨before', [], rfl, rest.symm, by rw [← same, List.append_nil]⟩
    | append_singleton surplus character =>
        have final : stretch.getLast? = some character := by
          have lasts := congrArg List.getLast? same
          rwa [List.getLast?_append_of_ne_nil _ nonempty, ← List.append_assoc,
            List.getLast?_concat] at lasts
        exact absurd (by simp [rest]) (last character final)
  · exact ⟨before', after', rfl, ends, same⟩

namespace Assertion

/-- Whether the assertion cannot tell the characters from the ends of a text. -/
def overlooks (assertion : Assertion) (characters : List Char) : Bool :=
  match assertion with
  | .wordEdge _ members => characters.all fun character => !members.contains character
  | _ => false

theorem holds_surrounded {assertion : Assertion} {characters leading trailing : List Char}
    (overlooked : assertion.overlooks characters = true) (isLeading : leading ⊆ characters)
    (isTrailing : trailing ⊆ characters) (before after : List Char) :
    assertion.holds (Place.between (leading ++ before) (after ++ trailing)) =
      assertion.holds (Place.between before after) := by
  cases assertion with
  | wordEdge position members =>
      have outside : ∀ character ∈ characters, members.contains character = false := by
        simpa [overlooks] using overlooked
      simp only [holds, Place.between,
        any_getLast?_append fun character member => outside character (isLeading member),
        any_head?_append fun character member => outside character (isTrailing member)]
  | _ => cases overlooked

end Assertion

namespace Pattern

/-- Whether no assertion of the pattern can tell the characters from the ends of a text. -/
def overlooks (characters : List Char) : Pattern → Bool
  | .empty => true
  | .char _ => true
  | .assertion condition => condition.overlooks characters
  | .sequence first second => first.overlooks characters && second.overlooks characters
  | .alternative left right => left.overlooks characters && right.overlooks characters
  | .repeated body => body.overlooks characters

/-- Whether the pattern accepts the empty stretch, if its assertions hold. -/
def mayBeEmpty : Pattern → Bool
  | .empty => true
  | .char _ => false
  | .assertion _ => true
  | .sequence first second => first.mayBeEmpty && second.mayBeEmpty
  | .alternative left right => left.mayBeEmpty || right.mayBeEmpty
  | .repeated body => body.mayBeEmpty

/-- Whether no stretch that the pattern accepts begins with one of the characters. -/
def startsOutside (characters : List Char) : Pattern → Bool
  | .empty => true
  | .char set => characters.all fun character => !set.contains character
  | .assertion _ => true
  | .sequence first second =>
      first.startsOutside characters && (!first.mayBeEmpty || second.startsOutside characters)
  | .alternative left right => left.startsOutside characters && right.startsOutside characters
  | .repeated body => body.startsOutside characters

/-- Whether no stretch that the pattern accepts ends with one of the characters. -/
def endsOutside (characters : List Char) : Pattern → Bool
  | .empty => true
  | .char set => characters.all fun character => !set.contains character
  | .assertion _ => true
  | .sequence first second =>
      second.endsOutside characters && (!second.mayBeEmpty || first.endsOutside characters)
  | .alternative left right => left.endsOutside characters && right.endsOutside characters
  | .repeated body => body.endsOutside characters

/-- Whether the characters make no difference around a text that is searched. -/
def isUnaffectedBy (pattern : Pattern) (characters : List Char) : Bool :=
  pattern.overlooks characters && !pattern.mayBeEmpty && pattern.startsOutside characters &&
    pattern.endsOutside characters

variable {pattern : Pattern} {characters before stretch after : List Char}

/-- A pattern accepts a stretch in other surroundings that its assertions cannot tell apart. -/
theorem Accepts.congr (accepted : pattern.Accepts before stretch after)
    (overlooked : pattern.overlooks characters = true) {before' after' : List Char}
    (same : ∀ assertion : Assertion, assertion.overlooks characters = true → ∀ left right,
      assertion.holds (Place.between (before ++ left) (right ++ after)) =
        assertion.holds (Place.between (before' ++ left) (right ++ after'))) :
    pattern.Accepts before' stretch after' := by
  induction accepted generalizing before' after' with
  | empty => exact .empty
  | char member => exact .char member
  | assertion holds =>
      have holds' := same _ overlooked [] []
      simp only [List.append_nil, List.nil_append] at holds'
      exact .assertion (holds'.symm.trans holds)
  | sequence _ _ ihFirst ihSecond =>
      rw [overlooks, Bool.and_eq_true] at overlooked
      refine .sequence (ihFirst overlooked.1 ?_) (ihSecond overlooked.2 ?_)
      · intro assertion overlooks left right
        simpa using same assertion overlooks left (right ++ _)
      · intro assertion overlooks left right
        simpa using same assertion overlooks (_ ++ left) right
  | left _ ih =>
      rw [overlooks, Bool.and_eq_true] at overlooked
      exact .left (ih overlooked.1 same)
  | right _ ih =>
      rw [overlooks, Bool.and_eq_true] at overlooked
      exact .right (ih overlooked.2 same)
  | once _ ih => exact .once (ih overlooked same)
  | again _ _ ihBody ihAgain =>
      refine .again (ihBody overlooked ?_) (ihAgain overlooked ?_)
      · intro assertion overlooks left right
        simpa using same assertion overlooks left (right ++ _)
      · intro assertion overlooks left right
        simpa using same assertion overlooks (_ ++ left) right

theorem accepts_surrounded_iff {leading trailing : List Char}
    (overlooked : pattern.overlooks characters = true) (isLeading : leading ⊆ characters)
    (isTrailing : trailing ⊆ characters) :
    pattern.Accepts (leading ++ before) stretch (after ++ trailing) ↔
      pattern.Accepts before stretch after := by
  have same (assertion : Assertion) (overlooks : assertion.overlooks characters = true)
      (left right : List Char) :
      assertion.holds (Place.between (leading ++ before ++ left) (right ++ (after ++ trailing))) =
        assertion.holds (Place.between (before ++ left) (right ++ after)) := by
    rw [List.append_assoc, ← List.append_assoc right]
    exact assertion.holds_surrounded overlooks isLeading isTrailing _ _
  constructor
  · exact fun accepted => accepted.congr overlooked same
  · exact fun accepted => accepted.congr overlooked fun assertion overlooks left right =>
      (same assertion overlooks left right).symm

theorem Accepts.mayBeEmpty (accepted : pattern.Accepts before stretch after)
    (empty : stretch = []) : pattern.mayBeEmpty = true := by
  induction accepted with
  | empty => rfl
  | char => cases empty
  | assertion => rfl
  | sequence _ _ ihFirst ihSecond =>
      rcases List.append_eq_nil_iff.1 empty with ⟨left, right⟩
      rw [Pattern.mayBeEmpty, ihFirst left, ihSecond right]
      rfl
  | left _ ih => rw [Pattern.mayBeEmpty, ih empty, Bool.true_or]
  | right _ ih => rw [Pattern.mayBeEmpty, ih empty, Bool.or_true]
  | once _ ih => exact ih empty
  | again _ _ ihBody _ => exact ihBody (List.append_eq_nil_iff.1 empty).1

theorem Accepts.not_mem_of_head? (accepted : pattern.Accepts before stretch after)
    (outside : pattern.startsOutside characters = true) {character : Char}
    (head : stretch.head? = some character) : character ∉ characters := by
  induction accepted with
  | empty => cases head
  | assertion => cases head
  | char member =>
      rw [List.head?_cons, Option.some.injEq] at head
      subst head
      intro listed
      have contained := List.all_eq_true.1 outside _ listed
      rw [member] at contained
      cases contained
  | @sequence _ _ _ left _ _ accepted _ ihFirst ihSecond =>
      simp only [startsOutside, Bool.and_eq_true, Bool.or_eq_true, Bool.not_eq_true'] at outside
      rcases outside with ⟨firstOutside, secondOutside⟩
      cases left with
      | nil =>
          have skips := accepted.mayBeEmpty rfl
          rw [skips] at secondOutside
          exact ihSecond (secondOutside.resolve_left Bool.noConfusion) head
      | cons initial left => exact ihFirst firstOutside head
  | left _ ih =>
      rw [startsOutside, Bool.and_eq_true] at outside
      exact ih outside.1 head
  | right _ ih =>
      rw [startsOutside, Bool.and_eq_true] at outside
      exact ih outside.2 head
  | once _ ih => exact ih outside head
  | @again _ _ left _ _ _ _ ihBody ihAgain =>
      cases left with
      | nil => exact ihAgain outside head
      | cons initial left => exact ihBody outside head

theorem Accepts.not_mem_of_getLast? (accepted : pattern.Accepts before stretch after)
    (outside : pattern.endsOutside characters = true) {character : Char}
    (last : stretch.getLast? = some character) : character ∉ characters := by
  induction accepted with
  | empty => cases last
  | assertion => cases last
  | char member =>
      rw [List.getLast?_singleton, Option.some.injEq] at last
      subst last
      intro listed
      have contained := List.all_eq_true.1 outside _ listed
      rw [member] at contained
      cases contained
  | @sequence _ _ _ _ right _ _ followed ihFirst ihSecond =>
      simp only [endsOutside, Bool.and_eq_true, Bool.or_eq_true, Bool.not_eq_true'] at outside
      rcases outside with ⟨secondOutside, firstOutside⟩
      by_cases skipped : right = []
      · have skips := followed.mayBeEmpty skipped
        rw [skips] at firstOutside
        rw [skipped, List.append_nil] at last
        exact ihFirst (firstOutside.resolve_left Bool.noConfusion) last
      · rw [List.getLast?_append_of_ne_nil _ skipped] at last
        exact ihSecond secondOutside last
  | left _ ih =>
      rw [endsOutside, Bool.and_eq_true] at outside
      exact ih outside.1 last
  | right _ ih =>
      rw [endsOutside, Bool.and_eq_true] at outside
      exact ih outside.2 last
  | once _ ih => exact ih outside last
  | @again _ _ _ right _ _ _ ihBody ihAgain =>
      by_cases skipped : right = []
      · rw [skipped, List.append_nil] at last
        exact ihBody outside last
      · rw [List.getLast?_append_of_ne_nil _ skipped] at last
        exact ihAgain outside last

/-- What is found in a text is found with the characters around it, and nothing more is. -/
theorem isMatch_surrounded (unaffected : pattern.isUnaffectedBy characters = true)
    {leading trailing : List Char} (isLeading : leading ⊆ characters)
    (isTrailing : trailing ⊆ characters) (text : List Char) :
    pattern.isMatch (leading ++ text ++ trailing) = pattern.isMatch text := by
  simp only [isUnaffectedBy, Bool.and_eq_true, Bool.not_eq_true'] at unaffected
  rcases unaffected with ⟨⟨⟨overlooked, consumes⟩, starts⟩, ends⟩
  rw [Bool.eq_iff_iff, isMatch_iff, isMatch_iff]
  constructor
  · rintro ⟨before, stretch, after, split, accepted⟩
    have nonempty : stretch ≠ [] := by
      intro empty
      rw [accepted.mayBeEmpty empty] at consumes
      cases consumes
    have first : ∀ character, stretch.head? = some character → character ∉ leading :=
      fun character head => mt (@isLeading character) (accepted.not_mem_of_head? starts head)
    have last : ∀ character, stretch.getLast? = some character → character ∉ trailing :=
      fun character last => mt (@isTrailing character) (accepted.not_mem_of_getLast? ends last)
    rcases exists_within_of_append_eq split nonempty first last with
      ⟨before', after', rfl, rfl, within⟩
    exact ⟨before', stretch, after', within,
      (accepts_surrounded_iff overlooked isLeading isTrailing).1 accepted⟩
  · rintro ⟨before, stretch, after, rfl, accepted⟩
    refine ⟨leading ++ before, stretch, after ++ trailing, by simp, ?_⟩
    exact (accepts_surrounded_iff overlooked isLeading isTrailing).2 accepted

/-- The text is a pattern for which the characters make no difference around a text. -/
def textIsUnaffectedBy (caseless : Bool) (characters : List Char) (text : String) : Bool :=
  (parse? { caseless := caseless } text.toList).any (·.isUnaffectedBy characters)

theorem isUnaffectedBy_of_compile? {limit : Option Nat} {caseless : Bool} {text : String}
    (compiled : compile? limit { caseless := caseless } text.toList = some pattern)
    (unaffected : textIsUnaffectedBy caseless characters text = true) :
    pattern.isUnaffectedBy characters = true := by
  rwa [textIsUnaffectedBy, parse?_of_compile? compiled, Option.any_some] at unaffected

end Pattern

namespace Builtin

/-- Indentation makes no difference to any of the built-in patterns. -/
theorem texts_unaffected_by_indentation :
    (forbiddenPhrases.all fun text =>
      Pattern.textIsUnaffectedBy true [' ', '\t'] text.source) = true ∧
    (debugCalls.all fun text =>
      Pattern.textIsUnaffectedBy false [' ', '\t'] text.source) = true ∧
    (bannedApis.all fun text =>
      Pattern.textIsUnaffectedBy false [' ', '\t'] text.source) = true ∧
    (secrets.all fun text =>
      Pattern.textIsUnaffectedBy false [' ', '\t'] text.source) = true ∧
    ([unwrapCandidate, unwrapFalsePositive, secretFalsePositive].all
      (Pattern.textIsUnaffectedBy false [' ', '\t'])) = true := by
  simp only [Pattern.textIsUnaffectedBy, Utf8.toList_eq_decode, List.all_cons, List.all_nil]
  decide +kernel

end Builtin

end Precommit
