import Precommit.Pattern.Meaning
import Precommit.Pattern.Search

/-!
# The search finds exactly the matches

`Resumes` gives the marks of a partial match their meaning: the stretch that is still
missing to complete one of them. One step of the search moves this meaning over one
character (`resumes_advance`), and so the search decides whether the text matches
(`isMatch_iff`).
-/

namespace Precommit

namespace Pattern

/--
Some partial match of the pattern, which has read the end of `before`, is completed by
`stretch` if `after` follows.
-/
def Resumes : Pattern → Progress → List Char → List Char → List Char → Prop
  | .empty, _, _, _, _ => False
  | .assertion _, _, _, _, _ => False
  | .char _, progress, _, stretch, _ => progress.isActive = true ∧ stretch = []
  | .sequence first second, progress, before, stretch, after =>
      (∃ left right, stretch = left ++ right ∧
        Resumes first progress.first before left (right ++ after) ∧
        Accepts second (before ++ left) right after) ∨
      Resumes second progress.second before stretch after
  | .alternative left right, progress, before, stretch, after =>
      Resumes left progress.first before stretch after ∨
      Resumes right progress.second before stretch after
  | .repeated body, progress, before, stretch, after =>
      ∃ left right, stretch = left ++ right ∧
        Resumes body progress.body before left (right ++ after) ∧
        (right = [] ∨ Accepts (.repeated body) (before ++ left) right after)

theorem not_resumes_idle (pattern : Pattern) (before stretch after : List Char) :
    ¬pattern.Resumes .idle before stretch after := by
  induction pattern generalizing before stretch after with
  | empty => simp [Resumes]
  | char set => simp [Resumes, Progress.isActive]
  | assertion condition => simp [Resumes]
  | sequence first second ihFirst ihSecond =>
      simp [Resumes, Progress.first, Progress.second, ihFirst, ihSecond]
  | alternative left right ihLeft ihRight =>
      simp [Resumes, Progress.first, Progress.second, ihLeft, ihRight]
  | repeated body ih => simp [Resumes, Progress.body, ih]

theorem Resumes.isActive {pattern : Pattern} {progress : Progress}
    {before stretch after : List Char} (resumes : pattern.Resumes progress before stretch after) :
    progress.isActive = true := by
  cases progress with
  | idle => exact absurd resumes (not_resumes_idle pattern before stretch after)
  | here => rfl
  | parts first second => rfl
  | inside body => rfl

theorem Progress.first_join (first second : Progress) :
    (first.join second).first = first := by
  unfold Progress.join
  split
  · rfl
  · cases first <;> simp_all [Progress.isActive, Progress.first]

theorem Progress.second_join (first second : Progress) :
    (first.join second).second = second := by
  unfold Progress.join
  split
  · rfl
  · cases second <;> simp_all [Progress.isActive, Progress.second]

theorem Progress.body_enclose (body : Progress) : body.enclose.body = body := by
  unfold Progress.enclose
  split
  · rfl
  · cases body <;> simp_all [Progress.isActive, Progress.body]

section Acceptance

variable {first second left right body : Pattern} {before stretch after : List Char}

theorem accepts_empty_iff : Accepts .empty before stretch after ↔ stretch = [] := by
  constructor
  · intro accepted
    cases accepted
    rfl
  · rintro rfl
    exact .empty

theorem accepts_char_iff {set : CharSet} :
    Accepts (.char set) before stretch after ↔
      ∃ character, set.contains character = true ∧ stretch = [character] := by
  constructor
  · intro accepted
    cases accepted with
    | char member => exact ⟨_, member, rfl⟩
  · rintro ⟨character, member, rfl⟩
    exact .char member

theorem accepts_assertion_iff {condition : Assertion} :
    Accepts (.assertion condition) before stretch after ↔
      condition.holds (Place.between before after) = true ∧ stretch = [] := by
  constructor
  · intro accepted
    cases accepted with
    | assertion holds => exact ⟨holds, rfl⟩
  · rintro ⟨holds, rfl⟩
    exact .assertion holds

theorem accepts_sequence_iff :
    Accepts (.sequence first second) before stretch after ↔
      ∃ left right, stretch = left ++ right ∧ Accepts first before left (right ++ after) ∧
        Accepts second (before ++ left) right after := by
  constructor
  · intro accepted
    cases accepted with
    | sequence accepted followed => exact ⟨_, _, rfl, accepted, followed⟩
  · rintro ⟨left, right, rfl, accepted, followed⟩
    exact .sequence accepted followed

theorem accepts_alternative_iff :
    Accepts (.alternative left right) before stretch after ↔
      Accepts left before stretch after ∨ Accepts right before stretch after := by
  constructor
  · intro accepted
    cases accepted with
    | left accepted => exact .inl accepted
    | right accepted => exact .inr accepted
  · rintro (accepted | accepted)
    · exact .left accepted
    · exact .right accepted

theorem accepts_repeated_nil_iff :
    Accepts (.repeated body) before [] after ↔ Accepts body before [] after := by
  constructor
  · intro accepted
    generalize equation : ([] : List Char) = stretch at accepted
    cases accepted with
    | once accepted => exact equation ▸ accepted
    | again accepted followed =>
        obtain ⟨rfl, rfl⟩ := List.append_eq_nil_iff.1 equation.symm
        exact accepted
  · exact .once

/-- Iterations that read nothing can be left out at the start of a repetition. -/
theorem accepts_repeated_cons_iff {character : Char} :
    Accepts (.repeated body) before (character :: stretch) after ↔
      ∃ left right, stretch = left ++ right ∧
        Accepts body before (character :: left) (right ++ after) ∧
        (right = [] ∨ Accepts (.repeated body) (before ++ character :: left) right after) := by
  constructor
  · intro accepted
    generalize patternEquation : Pattern.repeated body = pattern at accepted
    generalize stretchEquation : character :: stretch = whole at accepted
    induction accepted with
    | once accepted =>
        cases patternEquation
        subst stretchEquation
        exact ⟨stretch, [], by simp, accepted, .inl rfl⟩
    | @again _ before left right after accepted followed _ ih =>
        cases patternEquation
        cases left with
        | nil =>
            obtain ⟨left, right, rfl, accepted, continued⟩ := ih rfl stretchEquation
            exact ⟨left, right, rfl, by simpa using accepted, by simpa using continued⟩
        | cons initial left =>
            obtain ⟨rfl, rfl⟩ := List.cons.inj stretchEquation
            exact ⟨left, right, rfl, accepted, .inr followed⟩
    | _ => cases patternEquation
  · rintro ⟨left, right, rfl, accepted, rfl | followed⟩
    · exact .once (by simpa using accepted)
    · simpa using Accepts.again accepted followed

end Acceptance

theorem acceptsEmpty_iff (pattern : Pattern) (before after : List Char) :
    pattern.acceptsEmpty (Place.between before after) = true ↔ pattern.Accepts before [] after := by
  induction pattern generalizing before after with
  | empty => simp [acceptsEmpty, accepts_empty_iff]
  | char set => simp [acceptsEmpty, accepts_char_iff]
  | assertion condition => simp [acceptsEmpty, accepts_assertion_iff]
  | sequence first second ihFirst ihSecond =>
      simp only [acceptsEmpty, Bool.and_eq_true, ihFirst, ihSecond, accepts_sequence_iff]
      constructor
      · rintro ⟨acceptedFirst, acceptedSecond⟩
        exact ⟨[], [], rfl, acceptedFirst, by simpa using acceptedSecond⟩
      · rintro ⟨left, right, empty, acceptedFirst, acceptedSecond⟩
        obtain ⟨rfl, rfl⟩ := List.append_eq_nil_iff.1 empty.symm
        exact ⟨acceptedFirst, by simpa using acceptedSecond⟩
  | alternative left right ihLeft ihRight =>
      simp [acceptsEmpty, ihLeft, ihRight, accepts_alternative_iff]
  | repeated body ih => simp [acceptsEmpty, ih, accepts_repeated_nil_iff]

theorem resumes_sequence_nil_iff {first second : Pattern} {progress : Progress}
    {before after : List Char} :
    (Pattern.sequence first second).Resumes progress before [] after ↔
      second.Resumes progress.second before [] after ∨
        (first.Resumes progress.first before [] after ∧ second.Accepts before [] after) := by
  simp only [Resumes]
  constructor
  · rintro (⟨left, right, empty, resumes, accepted⟩ | resumes)
    · obtain ⟨rfl, rfl⟩ := List.append_eq_nil_iff.1 empty.symm
      exact .inr ⟨resumes, by simpa using accepted⟩
    · exact .inl resumes
  · rintro (resumes | ⟨resumes, accepted⟩)
    · exact .inr resumes
    · exact .inl ⟨[], [], rfl, resumes, by simpa using accepted⟩

theorem resumes_repeated_nil_iff {body : Pattern} {progress : Progress}
    {before after : List Char} :
    (Pattern.repeated body).Resumes progress before [] after ↔
      body.Resumes progress.body before [] after := by
  simp only [Resumes]
  constructor
  · rintro ⟨left, right, empty, resumes, _⟩
    obtain ⟨rfl, rfl⟩ := List.append_eq_nil_iff.1 empty.symm
    exact resumes
  · intro resumes
    exact ⟨[], [], rfl, resumes, .inl rfl⟩

theorem canEnd_iff (pattern : Pattern) (progress : Progress) (before after : List Char) :
    pattern.canEnd (Place.between before after) progress = true ↔
      pattern.Resumes progress before [] after := by
  induction pattern generalizing progress before after with
  | empty => simp [canEnd, Resumes]
  | char set => simp [canEnd, Resumes]
  | assertion condition => simp [canEnd, Resumes]
  | sequence first second ihFirst ihSecond =>
      have active := @Resumes.isActive (.sequence first second) progress before [] after
      rw [resumes_sequence_nil_iff] at active ⊢
      simp only [canEnd, Bool.and_eq_true, Bool.or_eq_true, acceptsEmpty_iff, ihFirst, ihSecond]
      exact and_iff_right_of_imp active
  | alternative left right ihLeft ihRight =>
      have active := @Resumes.isActive (.alternative left right) progress before [] after
      simp only [canEnd, Bool.and_eq_true, Bool.or_eq_true, ihLeft, ihRight]
      simp only [Resumes] at active ⊢
      exact and_iff_right_of_imp active
  | repeated body ih =>
      have active := @Resumes.isActive (.repeated body) progress before [] after
      rw [resumes_repeated_nil_iff] at active ⊢
      simp only [canEnd, Bool.and_eq_true, ih]
      exact and_iff_right_of_imp active

theorem not_resumes_of_still {pattern : Pattern} {enter : Bool} {progress : Progress}
    {before stretch after : List Char} {entered : Prop}
    (still : ¬(enter || progress.isActive) = true) :
    ¬(pattern.Resumes progress before stretch after ∨ (enter = true ∧ entered)) := by
  rintro (resumes | ⟨enters, _⟩)
  · exact still (by simp [resumes.isActive])
  · exact still (by simp [enters])

theorem resumes_sequence_cons_iff {first second : Pattern} {progress : Progress}
    {character : Char} {before stretch after : List Char} :
    (Pattern.sequence first second).Resumes progress before (character :: stretch) after ↔
      (∃ left right, stretch = left ++ right ∧
        first.Resumes progress.first before (character :: left) (right ++ after) ∧
        second.Accepts (before ++ character :: left) right after) ∨
      (first.Resumes progress.first before [] (character :: stretch ++ after) ∧
        second.Accepts before (character :: stretch) after) ∨
      second.Resumes progress.second before (character :: stretch) after := by
  simp only [Resumes]
  constructor
  · rintro (⟨left, right, split, resumes, accepted⟩ | resumes)
    · cases left with
      | nil =>
          obtain rfl : right = character :: stretch := split.symm
          exact .inr (.inl ⟨resumes, by simpa using accepted⟩)
      | cons initial left =>
          obtain ⟨rfl, rfl⟩ := List.cons.inj split
          exact .inl ⟨left, right, rfl, resumes, accepted⟩
    · exact .inr (.inr resumes)
  · rintro (⟨left, right, rfl, resumes, accepted⟩ | ⟨resumes, accepted⟩ | resumes)
    · exact .inl ⟨character :: left, right, rfl, resumes, accepted⟩
    · exact .inl ⟨[], character :: stretch, rfl, resumes, by simpa using accepted⟩
    · exact .inr resumes

theorem accepts_sequence_cons_iff {first second : Pattern} {character : Char}
    {before stretch after : List Char} :
    (Pattern.sequence first second).Accepts before (character :: stretch) after ↔
      (∃ left right, stretch = left ++ right ∧
        first.Accepts before (character :: left) (right ++ after) ∧
        second.Accepts (before ++ character :: left) right after) ∨
      (first.Accepts before [] (character :: stretch ++ after) ∧
        second.Accepts before (character :: stretch) after) := by
  rw [accepts_sequence_iff]
  constructor
  · rintro ⟨left, right, split, accepted, followed⟩
    cases left with
    | nil =>
        obtain rfl : right = character :: stretch := split.symm
        exact .inr ⟨accepted, by simpa using followed⟩
    | cons initial left =>
        obtain ⟨rfl, rfl⟩ := List.cons.inj split
        exact .inl ⟨left, right, rfl, accepted, followed⟩
  · rintro (⟨left, right, rfl, accepted, followed⟩ | ⟨accepted, followed⟩)
    · exact ⟨character :: left, right, rfl, accepted, followed⟩
    · exact ⟨[], character :: stretch, rfl, accepted, by simpa using followed⟩

theorem resumes_repeated_cons_iff {body : Pattern} {progress : Progress} {character : Char}
    {before stretch after : List Char} :
    (Pattern.repeated body).Resumes progress before (character :: stretch) after ↔
      (∃ left right, stretch = left ++ right ∧
        body.Resumes progress.body before (character :: left) (right ++ after) ∧
        (right = [] ∨ Accepts (.repeated body) (before ++ character :: left) right after)) ∨
      (body.Resumes progress.body before [] (character :: stretch ++ after) ∧
        Accepts (.repeated body) before (character :: stretch) after) := by
  simp only [Resumes]
  constructor
  · rintro ⟨left, right, split, resumes, continued⟩
    cases left with
    | nil =>
        obtain rfl : right = character :: stretch := split.symm
        exact .inr ⟨resumes, by simpa using continued⟩
    | cons initial left =>
        obtain ⟨rfl, rfl⟩ := List.cons.inj split
        exact .inl ⟨left, right, rfl, resumes, continued⟩
  · rintro (⟨left, right, rfl, resumes, continued⟩ | ⟨resumes, continued⟩)
    · exact ⟨character :: left, right, rfl, resumes, continued⟩
    · exact ⟨[], character :: stretch, rfl, resumes, .inr (by simpa using continued)⟩

/--
A step over a character completes the partial matches that were there before and, if
the pattern may be entered, those that begin at the character.
-/
theorem resumes_advance (pattern : Pattern) (character : Char) (enter : Bool)
    (progress : Progress) (before stretch after : List Char) :
    pattern.Resumes
        (pattern.advance (Place.between before (character :: (stretch ++ after))) character enter
          progress)
        (before ++ [character]) stretch after ↔
      pattern.Resumes progress before (character :: stretch) after ∨
        (enter = true ∧ pattern.Accepts before (character :: stretch) after) := by
  induction pattern generalizing enter progress before stretch after with
  | empty => simp [Resumes, accepts_empty_iff]
  | char set =>
      simp only [Resumes, accepts_char_iff, List.cons.injEq, reduceCtorEq, and_false, false_or,
        advance]
      constructor
      · rintro ⟨active, rfl⟩
        split at active
        · split at active
          · rename_i member
            simp only [Bool.and_eq_true] at member
            exact ⟨member.1, character, member.2, rfl, rfl⟩
          · exact absurd active (by simp [Progress.isActive])
        · exact absurd active (by simp [Progress.isActive])
      · rintro ⟨rfl, member, contained, rfl, rfl⟩
        simp [contained, Progress.isActive]
  | assertion condition => simp [Resumes, accepts_assertion_iff]
  | sequence first second ihFirst ihSecond =>
      rw [advance]
      split
      case isFalse still =>
        exact iff_of_false (not_resumes_idle _ _ _ _) (not_resumes_of_still still)
      have passed := canEnd_iff first progress.first before (character :: (stretch ++ after))
      have skipped := acceptsEmpty_iff first before (character :: (stretch ++ after))
      rw [resumes_sequence_cons_iff, accepts_sequence_cons_iff]
      simp only [Resumes, Progress.first_join, Progress.second_join, ihSecond, Bool.or_eq_true,
        Bool.and_eq_true, passed, skipped]
      constructor
      · rintro (⟨left, right, rfl, resumes, accepted⟩ | resumes |
          ⟨⟨enters, skips⟩ | passes, accepted⟩)
        · rw [List.append_assoc] at resumes
          rw [List.append_assoc] at accepted
          rcases (ihFirst _ _ _ _ _).1 resumes with resumes | ⟨enters, entered⟩
          · exact .inl (.inl ⟨left, right, rfl, resumes, accepted⟩)
          · exact .inr ⟨enters, .inl ⟨left, right, rfl, entered, accepted⟩⟩
        · exact .inl (.inr (.inr resumes))
        · exact .inr ⟨enters, .inr ⟨skips, accepted⟩⟩
        · exact .inl (.inr (.inl ⟨passes, accepted⟩))
      · rintro ((⟨left, right, rfl, resumes, accepted⟩ | ⟨passes, accepted⟩ | resumes) |
          ⟨enters, ⟨left, right, rfl, entered, accepted⟩ | ⟨skips, accepted⟩⟩)
        · refine .inl ⟨left, right, rfl, ?_, by simpa using accepted⟩
          rw [List.append_assoc]
          exact (ihFirst _ _ _ _ _).2 (.inl resumes)
        · exact .inr (.inr ⟨.inr passes, accepted⟩)
        · exact .inr (.inl resumes)
        · refine .inl ⟨left, right, rfl, ?_, by simpa using accepted⟩
          rw [List.append_assoc]
          exact (ihFirst _ _ _ _ _).2 (.inr ⟨enters, entered⟩)
        · exact .inr (.inr ⟨.inl ⟨enters, skips⟩, accepted⟩)
  | alternative left right ihLeft ihRight =>
      rw [advance]
      split
      case isFalse still =>
        exact iff_of_false (not_resumes_idle _ _ _ _) (not_resumes_of_still still)
      simp only [Resumes, Progress.first_join, Progress.second_join, ihLeft, ihRight,
        accepts_alternative_iff]
      grind
  | repeated body ih =>
      rw [advance]
      split
      case isFalse still =>
        exact iff_of_false (not_resumes_idle _ _ _ _) (not_resumes_of_still still)
      have passed := canEnd_iff body progress.body before (character :: (stretch ++ after))
      rw [resumes_repeated_cons_iff]
      simp only [Resumes, Progress.body_enclose, List.cons_append, ← passed]
      constructor
      · rintro ⟨left, right, rfl, resumes, continued⟩
        rw [List.append_assoc] at resumes continued
        rw [List.append_assoc]
        rcases (ih _ progress.body before left (right ++ after)).1 resumes with
          resumes | ⟨enters, entered⟩
        · exact .inl (.inl ⟨left, right, rfl, resumes, continued⟩)
        · have accepted : Accepts (.repeated body) before (character :: (left ++ right)) after :=
            accepts_repeated_cons_iff.2 ⟨left, right, rfl, entered, continued⟩
          rcases Bool.or_eq_true_iff.1 enters with enters | passes
          · exact .inr ⟨enters, accepted⟩
          · exact .inl (.inr ⟨passes, accepted⟩)
      · rintro ((⟨left, right, rfl, resumes, continued⟩ | ⟨passes, accepted⟩) | ⟨enters, accepted⟩)
        · refine ⟨left, right, rfl, ?_, by simpa using continued⟩
          rw [List.append_assoc]
          exact (ih _ _ _ _ _).2 (.inl resumes)
        · obtain ⟨left, right, rfl, entered, continued⟩ := accepts_repeated_cons_iff.1 accepted
          refine ⟨left, right, rfl, ?_, by simpa using continued⟩
          rw [List.append_assoc] at passes ⊢
          exact (ih _ _ _ _ _).2 (.inr ⟨by simp [passes], entered⟩)
        · obtain ⟨left, right, rfl, entered, continued⟩ := accepts_repeated_cons_iff.1 accepted
          refine ⟨left, right, rfl, ?_, by simpa using continued⟩
          rw [List.append_assoc]
          exact (ih _ _ _ _ _).2 (.inr ⟨by simp [enters], entered⟩)

/-- The search goes on to find what completes a partial match or begins later on. -/
theorem searchFrom_iff (pattern : Pattern) (progress : Progress) (before rest : List Char) :
    pattern.searchFrom progress before.getLast? rest = true ↔
      (∃ stretch after, rest = stretch ++ after ∧
        pattern.Resumes progress before stretch after) ∨
      (∃ skipped stretch after, rest = skipped ++ stretch ++ after ∧
        pattern.Accepts (before ++ skipped) stretch after) := by
  induction rest generalizing progress before with
  | nil =>
      have ends := canEnd_iff pattern progress before []
      have empty := acceptsEmpty_iff pattern before []
      simp only [Place.between, List.head?_nil] at ends empty
      simp only [searchFrom, Bool.or_eq_true, ends, empty]
      constructor
      · rintro (accepted | resumes)
        · exact .inr ⟨[], [], [], rfl, by simpa using accepted⟩
        · exact .inl ⟨[], [], rfl, resumes⟩
      · rintro (⟨stretch, after, split, resumes⟩ | ⟨skipped, stretch, after, split, accepted⟩)
        · obtain ⟨rfl, rfl⟩ := List.append_eq_nil_iff.1 split.symm
          exact .inr resumes
        · obtain ⟨outer, rfl⟩ := List.append_eq_nil_iff.1 split.symm
          obtain ⟨rfl, rfl⟩ := List.append_eq_nil_iff.1 outer
          exact .inl (by simpa using accepted)
  | cons character rest ih =>
      have ends := canEnd_iff pattern progress before (character :: rest)
      have empty := acceptsEmpty_iff pattern before (character :: rest)
      simp only [Place.between, List.head?_cons] at ends empty
      have later := ih (pattern.advance ⟨before.getLast?, some character⟩ character true progress)
        (before ++ [character])
      rw [List.getLast?_concat] at later
      simp only [searchFrom, Bool.or_eq_true, ends, empty, later]
      constructor
      · rintro ((accepted | resumes) | ⟨stretch, after, rfl, resumes⟩ |
          ⟨skipped, stretch, after, rfl, accepted⟩)
        · exact .inr ⟨[], [], character :: rest, rfl, by simpa using accepted⟩
        · exact .inl ⟨[], character :: rest, rfl, resumes⟩
        · rcases (resumes_advance ..).1 resumes with resumes | ⟨_, accepted⟩
          · exact .inl ⟨character :: stretch, after, rfl, resumes⟩
          · exact .inr ⟨[], character :: stretch, after, rfl, by simpa using accepted⟩
        · exact .inr ⟨character :: skipped, stretch, after, rfl, by simpa using accepted⟩
      · rintro (⟨stretch, after, split, resumes⟩ | ⟨skipped, stretch, after, split, accepted⟩)
        · cases stretch with
          | nil =>
              obtain rfl : after = character :: rest := split.symm
              exact .inl (.inr resumes)
          | cons initial stretch =>
              obtain ⟨rfl, rfl⟩ := List.cons.inj split
              exact .inr (.inl ⟨stretch, after, rfl, (resumes_advance ..).2 (.inl resumes)⟩)
        · cases skipped with
          | cons initial skipped =>
              obtain ⟨rfl, rfl⟩ := List.cons.inj split
              exact .inr (.inr ⟨skipped, stretch, after, rfl, by simpa using accepted⟩)
          | nil =>
              rw [List.append_nil] at accepted
              cases stretch with
              | nil =>
                  obtain rfl : after = character :: rest := split.symm
                  exact .inl (.inl accepted)
              | cons initial stretch =>
                  obtain ⟨rfl, rfl⟩ := List.cons.inj split
                  exact .inr (.inl
                    ⟨stretch, after, rfl, (resumes_advance ..).2 (.inr ⟨rfl, accepted⟩)⟩)

/-- The search decides whether some stretch of the text is accepted. -/
theorem isMatch_iff (pattern : Pattern) (text : List Char) :
    pattern.isMatch text = true ↔ pattern.Matches text := by
  have search := searchFrom_iff pattern .idle [] text
  simp only [List.getLast?_nil] at search
  rw [isMatch, search]
  constructor
  · rintro (⟨stretch, after, _, resumes⟩ | ⟨skipped, stretch, after, split, accepted⟩)
    · exact absurd resumes (not_resumes_idle _ _ _ _)
    · exact ⟨skipped, stretch, after, split, by simpa using accepted⟩
  · rintro ⟨before, stretch, after, split, accepted⟩
    exact .inr ⟨before, stretch, after, split, by simpa using accepted⟩

end Pattern

end Precommit
