import Precommit.Proofs.Audit.Assembly
import Precommit.Proofs.Rule.Grammar

/-!
# What keeps an auditor from being set up

Leaving limits to the size of patterns aside, only the phrases and the globs that a policy
lists can be at fault. The phrases are read first, and the first one that is no pattern is
named; only if there is none, the first glob that cannot be read is. Globs that can be read
each for itself may still be nested too deeply to be looked for, and then all are named.
-/

namespace Precommit

/-- The text can be read as a phrase. -/
def Pattern.IsPhrase (text : String) : Prop :=
  ∃ pattern, Pattern.parse? { caseless := true } text.toList = some pattern

namespace Glob

/-- The text can be read as a glob. -/
def IsReadable (text : String) : Prop :=
  ∃ glob, Glob.parse? text.toList = some glob

/-- The text is a glob that needs an automaton and is nested too deeply for one. -/
def IsTooDeep (text : String) : Prop :=
  ∃ glob, Glob.parse? text.toList = some glob ∧
    (glob.form = .extension ∨ glob.form = .general) ∧ Pattern.Expression.depthLimit < glob.nesting

end Glob

/-- What is at fault with the phrases and globs of a policy. -/
inductive SetupFault (policy : Policy) : SetupError → Prop
  /-- A phrase is no pattern and all phrases before it are, whatever the globs are. -/
  | phrase {before after : List String} {phrase : String}
      (listed : policy.rules.extraForbiddenPhrases = before ++ phrase :: after)
      (readable : ∀ earlier ∈ before, Pattern.IsPhrase earlier)
      (invalid : ¬Pattern.IsPhrase phrase) :
      SetupFault policy (.invalidPattern "forbidden_phrases" phrase)
  /-- A glob cannot be read and all globs before it can. -/
  | glob {before after : List String} {glob : String}
      (phrases : ∀ phrase ∈ policy.rules.extraForbiddenPhrases, Pattern.IsPhrase phrase)
      (listed : policy.scan.secretExempt = before ++ glob :: after)
      (readable : ∀ earlier ∈ before, Glob.IsReadable earlier)
      (invalid : ¬Glob.IsReadable glob) : SetupFault policy (.invalidGlob glob)
  /-- All globs can be read, but one is nested too deeply. -/
  | nesting {glob : String}
      (phrases : ∀ phrase ∈ policy.rules.extraForbiddenPhrases, Pattern.IsPhrase phrase)
      (readable : ∀ glob ∈ policy.scan.secretExempt, Glob.IsReadable glob)
      (listed : glob ∈ policy.scan.secretExempt) (deep : Glob.IsTooDeep glob) :
      SetupFault policy (.invalidGlob (String.intercalate ", " policy.scan.secretExempt))

/-- The phrases and the globs of the policy are all in order. -/
structure Policy.IsSound (policy : Policy) : Prop where
  phrases : ∀ phrase ∈ policy.rules.extraForbiddenPhrases, Pattern.IsPhrase phrase
  globs : ∀ glob ∈ policy.scan.secretExempt, Glob.IsReadable glob
  shallow : ∀ glob ∈ policy.scan.secretExempt, ¬Glob.IsTooDeep glob

variable {policy : Policy}

/-- A policy that is not in order has a fault to report. -/
theorem Policy.sound_or_fault (policy : Policy) :
    policy.IsSound ∨ ∃ error, SetupFault policy error := by
  by_cases phrases : ∀ phrase ∈ policy.rules.extraForbiddenPhrases, Pattern.IsPhrase phrase
  · by_cases globs : ∀ glob ∈ policy.scan.secretExempt, Glob.IsReadable glob
    · by_cases shallow : ∀ glob ∈ policy.scan.secretExempt, ¬Glob.IsTooDeep glob
      · exact .inl ⟨phrases, globs, shallow⟩
      · simp only [not_forall, not_not] at shallow
        rcases shallow with ⟨glob, listed, deep⟩
        exact .inr ⟨_, .nesting phrases globs listed deep⟩
    · rcases exists_first globs with ⟨before, glob, after, listed, earlier, invalid⟩
      exact .inr ⟨_, .glob phrases listed earlier invalid⟩
  · rcases exists_first phrases with ⟨before, phrase, after, listed, earlier, invalid⟩
    exact .inr ⟨_, .phrase listed earlier invalid⟩

namespace Rule

variable {phrase : String}

theorem exists_ofText_of_isPhrase (readable : Pattern.IsPhrase phrase) :
    ∃ rule, ofText none "forbidden_phrases" true (.forbiddenPhrase phrase) = .ok rule := by
  rcases readable with ⟨pattern, parsed⟩
  refine ⟨⟨.forbiddenPhrase phrase, pattern⟩, ofText_eq_ok_iff.2 ⟨rfl, ?_⟩⟩
  rw [Pattern.compile?_none]
  exact parsed

theorem ofText_eq_error (invalid : ¬Pattern.IsPhrase phrase) :
    ofText none "forbidden_phrases" true (.forbiddenPhrase phrase) =
      .error (.invalidPattern "forbidden_phrases" phrase) := by
  have unread : Pattern.parse? { caseless := true } phrase.toList = none :=
    Option.eq_none_iff_forall_ne_some.2 fun pattern parsed => invalid ⟨pattern, parsed⟩
  have failed : readPattern none "forbidden_phrases" true phrase =
      .error (.invalidPattern "forbidden_phrases" phrase) := by
    rw [readPattern, Pattern.compile?_none, unread]
  rw [ofText]
  exact bind_eq_error_iff.2 (.inl failed)

end Rule

namespace RuleSet

/-- The built-in phrases can be read. -/
theorem exists_ofText_builtin {text : RuleText} (listed : text ∈ Builtin.forbiddenPhrases) :
    ∃ rule, Rule.ofText none "forbidden_phrases" true text = .ok rule := by
  rcases exists_ofPolicy_builtin with ⟨builtin, read⟩
  have lists := (ofPolicy_eq_ok_iff.1 read).phrases.unlimited
  rcases lists.exists_pattern (List.mem_append_left _ listed) with ⟨pattern, compiled⟩
  exact ⟨⟨text, pattern⟩, Rule.ofText_eq_ok_iff.2 ⟨rfl, compiled⟩⟩

/-- The first added phrase that is no pattern is reported. -/
theorem ofPolicy_eq_error {before after : List String} {phrase : String}
    (listed : policy.rules.extraForbiddenPhrases = before ++ phrase :: after)
    (readable : ∀ earlier ∈ before, Pattern.IsPhrase earlier)
    (invalid : ¬Pattern.IsPhrase phrase) :
    ofPolicy policy none = .error (.invalidPattern "forbidden_phrases" phrase) := by
  have texts : phraseTexts policy =
      (Builtin.forbiddenPhrases ++ before.map .forbiddenPhrase) ++
        .forbiddenPhrase phrase :: after.map .forbiddenPhrase := by
    rw [phraseTexts, listed]
    simp
  have earlier : ∀ text ∈ Builtin.forbiddenPhrases ++ before.map RuleText.forbiddenPhrase,
      ∃ rule, Rule.ofText none "forbidden_phrases" true text = .ok rule := by
    intro text member
    rcases List.mem_append.1 member with builtin | added
    · exact exists_ofText_builtin builtin
    · rcases List.mem_map.1 added with ⟨phrase, listed, rfl⟩
      exact Rule.exists_ofText_of_isPhrase (readable phrase listed)
  have table : RuleTable.ofTexts none "forbidden_phrases" .first true (phraseTexts policy) =
      .error (.invalidPattern "forbidden_phrases" phrase) := by
    rw [RuleTable.ofTexts, texts]
    exact bind_eq_error_iff.2 (.inl (mapM_append_cons earlier (Rule.ofText_eq_error invalid)))
  rw [ofPolicy]
  exact bind_eq_error_iff.2 (.inl table)

end RuleSet

namespace Classifier

variable {scan : ScanPolicy}

/-- The first glob that cannot be read is reported. -/
theorem ofPolicy_eq_error {before after : List String} {glob : String}
    (listed : scan.secretExempt = before ++ glob :: after)
    (readable : ∀ earlier ∈ before, Glob.IsReadable earlier) (invalid : ¬Glob.IsReadable glob) :
    ofPolicy scan none = .error (.invalidGlob glob) := by
  have earlier : ∀ text ∈ before, ∃ glob, readGlob text = .ok glob := by
    intro text member
    rcases readable text member with ⟨glob, parsed⟩
    exact ⟨glob, readGlob_eq_ok_iff.2 parsed⟩
  have failed : readGlob glob = .error (.invalidGlob glob) := by
    have unread : Glob.parse? glob.toList = none :=
      Option.eq_none_iff_forall_ne_some.2 fun read parsed => invalid ⟨read, parsed⟩
    rw [readGlob, unread]
  rw [ofPolicy, listed]
  exact bind_eq_error_iff.2 (.inl (mapM_append_cons earlier failed))

theorem ofPolicy_of_readable {globs : List Glob}
    (read : List.Forall₂ (fun text glob => Glob.parse? text.toList = some glob) scan.secretExempt
      globs) :
    ofPolicy scan none =
      if Glob.areBuildable none globs then .ok { scan := scan, secretExempt := globs }
      else .error (.invalidGlob (String.intercalate ", " scan.secretExempt)) := by
  have each : scan.secretExempt.mapM readGlob = .ok globs := by
    rw [mapM_eq_ok_iff]
    exact read.imp fun _ _ parsed => readGlob_eq_ok_iff.2 parsed
  rw [ofPolicy, each]
  rfl

/-- Globs can be built, as far as their size does not matter, unless one is nested too deeply. -/
theorem areBuildable_iff {texts : List String} {globs : List Glob}
    (read : List.Forall₂ (fun text glob => Glob.parse? text.toList = some glob) texts globs) :
    Glob.areBuildable none globs = true ↔ ∀ text ∈ texts, ¬Glob.IsTooDeep text := by
  have shallow : Glob.areBuildable none globs = true ↔
      ∀ glob ∈ globs, glob.form = .extension ∨ glob.form = .general →
        glob.nesting ≤ Pattern.Expression.depthLimit := by
    simp only [Glob.areBuildable, Option.all_none, Bool.and_true, List.all_append, Bool.and_eq_true,
      List.all_eq_true, List.mem_filter, beq_iff_eq, decide_eq_true_eq, and_imp]
    constructor
    · rintro ⟨extensions, general⟩ glob member (form | form)
      · exact extensions glob member form
      · exact general glob member form
    · intro each
      exact ⟨fun glob member form => each glob member (.inl form),
        fun glob member form => each glob member (.inr form)⟩
  rw [shallow]
  constructor
  · rintro each text member ⟨glob, parsed, form, deep⟩
    rcases exists_of_mem_left read member with ⟨other, listed, parsed'⟩
    rcases Option.some_inj.1 (parsed.symm.trans parsed') with rfl
    exact absurd deep (Nat.not_lt.2 (each glob listed form))
  · intro each glob listed form
    rcases exists_of_mem_left read.flip listed with ⟨text, member, parsed⟩
    exact Nat.not_lt.1 fun deep => each text member ⟨glob, parsed, form, deep⟩

end Classifier

namespace Auditor

theorem ofPolicy_eq_error_of_fault {error : SetupError} (fault : SetupFault policy error) :
    ofPolicy policy none = .error error := by
  rw [ofPolicy]
  cases fault with
  | phrase listed readable invalid =>
      exact bind_eq_error_iff.2 (.inl (RuleSet.ofPolicy_eq_error listed readable invalid))
  | glob phrases listed readable invalid =>
      rcases RuleSet.exists_unlimited_iff.2 phrases with ⟨rules, read⟩
      refine bind_eq_error_iff.2 (.inr ⟨rules, read, bind_eq_error_iff.2 (.inl ?_)⟩)
      exact Classifier.ofPolicy_eq_error listed readable invalid
  | nesting phrases readable listed deep =>
      rcases RuleSet.exists_unlimited_iff.2 phrases with ⟨rules, read⟩
      rcases exists_forall₂ readable with ⟨globs, parsed⟩
      have unbuildable : ¬Glob.areBuildable none globs = true := by
        intro buildable
        exact (Classifier.areBuildable_iff parsed).1 buildable _ listed deep
      refine bind_eq_error_iff.2 (.inr ⟨rules, read, bind_eq_error_iff.2 (.inl ?_)⟩)
      rw [Classifier.ofPolicy_of_readable parsed, if_neg unbuildable]

theorem exists_ofPolicy_of_sound (sound : policy.IsSound) :
    ∃ auditor, ofPolicy policy none = .ok auditor := by
  rcases RuleSet.exists_unlimited_iff.2 sound.phrases with ⟨rules, read⟩
  rcases exists_forall₂ sound.globs with ⟨globs, parsed⟩
  have classified := Classifier.ofPolicy_of_readable parsed
  rw [if_pos ((Classifier.areBuildable_iff parsed).2 sound.shallow)] at classified
  exact ⟨⟨rules, ⟨policy.scan, globs⟩, policy.scan.excerptLength⟩, ofPolicy_eq_ok_iff.2
    ⟨RuleSet.ofPolicy_eq_ok_iff.1 read, classified, rfl⟩⟩

/--
Leaving limits to sizes aside, an auditor fails to be set up exactly if an added phrase is no
pattern, a glob cannot be read, or a glob is nested too deeply, whatever else the policy says.
The error names the first bad phrase; if there is none, the first glob that cannot be read; and
if there is none, all globs.
-/
theorem ofPolicy_eq_error_iff (policy : Policy) :
    (∀ error, ofPolicy policy none = .error error ↔ SetupFault policy error) ∧
      ((∃ error, ofPolicy policy none = .error error) ↔
        (∃ phrase ∈ policy.rules.extraForbiddenPhrases, ¬Pattern.IsPhrase phrase) ∨
          ∃ glob ∈ policy.scan.secretExempt, ¬Glob.IsReadable glob ∨ Glob.IsTooDeep glob) := by
  have faulty (error : SetupError) :
      ofPolicy policy none = .error error ↔ SetupFault policy error := by
    refine ⟨fun failed => ?_, ofPolicy_eq_error_of_fault⟩
    rcases policy.sound_or_fault with sound | ⟨other, fault⟩
    · rcases exists_ofPolicy_of_sound sound with ⟨auditor, read⟩
      cases failed.symm.trans read
    · rcases Except.error.inj (failed.symm.trans (ofPolicy_eq_error_of_fault fault)) with rfl
      exact fault
  refine ⟨faulty, ?_⟩
  simp only [faulty]
  constructor
  · rintro ⟨error, fault⟩
    cases fault with
    | phrase listed readable invalid => exact .inl ⟨_, by simp [listed], invalid⟩
    | glob phrases listed readable invalid => exact .inr ⟨_, by simp [listed], .inl invalid⟩
    | nesting phrases readable listed deep => exact .inr ⟨_, listed, .inr deep⟩
  · intro bad
    rcases policy.sound_or_fault with sound | fault
    · rcases bad with ⟨phrase, listed, invalid⟩ | ⟨glob, listed, invalid | deep⟩
      · exact absurd (sound.phrases phrase listed) invalid
      · exact absurd (sound.globs glob listed) invalid
      · exact absurd deep (sound.shallow glob listed)
    · exact fault

end Auditor

section Nested

open Glob

/-- The glob that has so many braces around a letter. -/
def Glob.nested (count : Nat) : String :=
  String.ofList (List.replicate count '{' ++ 'a' :: List.replicate count '}')

/-- What is read between so many braces. -/
def GlobPart.nested : Nat → GlobPart
  | 0 => .literal 'a'
  | count + 1 => .ofBranches [[nested count]]

theorem GlobPart.nestings_nested (count : Nat) : (nested count).nestings = [count] := by
  induction count with
  | zero => decide
  | succ count ih =>
      have inner : [nested count].flatMap nestings = [count] := by
        rw [List.flatMap_cons, ih]
        rfl
      have kept : [[nested count]].filter (fun parts => !(parts.flatMap nestings).isEmpty) =
          [[nested count]] := by
        rw [List.filter_cons_of_pos (by rw [inner]; rfl), List.filter_nil]
      have nesting : nestingOf [count] = count := by simp [nestingOf]
      simp only [nested, ofBranches, kept]
      simp [nestings, inner, nesting]

/-- Every opening brace begins a choice without anything before it. -/
theorem Glob.Reader.readFrom_openings (count : Nat) (choices : List OpenChoice)
    (previous : Option Char) (rest : List Char) :
    ∃ previous', readFrom ⟨choices, [], previous⟩ (List.replicate count '{' ++ rest) =
      readFrom ⟨List.replicate count ⟨[], []⟩ ++ choices, [], previous'⟩ rest := by
  induction count generalizing choices previous with
  | zero => exact ⟨previous, rfl⟩
  | succ count ih =>
      rcases ih (⟨[], []⟩ :: choices) (some '{') with ⟨previous', read⟩
      refine ⟨previous', ?_⟩
      rw [List.replicate_succ, List.cons_append, readFrom]
      rw [List.replicate_succ', List.append_assoc, List.singleton_append]
      exact read

/-- Every closing brace makes one choice of what was read. -/
theorem Glob.Reader.readFrom_closings (count depth : Nat) (previous : Option Char) :
    ∃ previous', readFrom ⟨List.replicate count ⟨[], []⟩, [GlobPart.nested depth], previous⟩
        (List.replicate count '}') =
      some ⟨[], [GlobPart.nested (depth + count)], previous'⟩ := by
  induction count generalizing depth previous with
  | zero => exact ⟨previous, by simp [readFrom]⟩
  | succ count ih =>
      rcases ih (depth + 1) (some '}') with ⟨previous', read⟩
      refine ⟨previous', ?_⟩
      rw [List.replicate_succ, List.replicate_succ, readFrom]
      rw [Nat.add_right_comm] at read
      exact read

theorem Glob.parse?_nested (count : Nat) :
    Glob.parse? (nested count).toList = some (ofParts [GlobPart.nested count]) := by
  rcases Reader.readFrom_openings count [] none ('a' :: List.replicate count '}') with
    ⟨previous, opened⟩
  rcases Reader.readFrom_closings count 0 (some 'a') with ⟨previous', closed⟩
  have letter : Reader.readFrom ⟨List.replicate count ⟨[], []⟩ ++ [], [], previous⟩
      ('a' :: List.replicate count '}') =
        Reader.readFrom ⟨List.replicate count ⟨[], []⟩, [GlobPart.nested 0], some 'a'⟩
          (List.replicate count '}') := by
    rw [List.append_nil, Reader.readFrom]
    · rfl
    all_goals simp
  rw [parse?, nested, String.toList_ofList, opened, letter, closed, Nat.zero_add]
  rfl

theorem GlobPart.exists_ofBranches (branches : List (List GlobPart)) :
    ∃ alternatives nestings plan, ofBranches branches = .choice alternatives nestings plan := by
  simp only [ofBranches]
  split
  · exact ⟨_, _, _, rfl⟩
  · exact ⟨_, _, _, rfl⟩

/-- Globs that are nested too deeply can be read all the same. -/
theorem Glob.isTooDeep_nested {count : Nat} (deep : Pattern.Expression.depthLimit ≤ count) :
    IsTooDeep (nested count) := by
  have nestings := GlobPart.nestings_nested count
  refine ⟨_, parse?_nested count, ?_⟩
  cases count with
  | zero => cases deep
  | succ count =>
      rcases GlobPart.exists_ofBranches [[.nested count]] with
        ⟨alternatives, inner, plan, choice⟩
      rw [GlobPart.nested, choice] at nestings ⊢
      refine ⟨.inr rfl, ?_⟩
      change Pattern.Expression.depthLimit <
        ([GlobPart.choice alternatives inner plan].flatMap GlobPart.nestings).foldl max 0 + 1
      simp only [List.flatMap_cons, List.flatMap_nil, nestings, List.append_nil, List.foldl_cons,
        List.foldl_nil]
      omega

/-- Globs that can each be read, one of which is nested too deeply. -/
def deepGlobs : List String :=
  ["docs/**", Glob.nested 300]

/--
A policy fails to be set up though each of its globs can be read and there are no phrases; the
error names none of its globs.
-/
theorem Auditor.ofPolicy_deepGlobs :
    (∀ glob ∈ deepGlobs, Glob.IsReadable glob) ∧
      ofPolicy { scan := { secretExempt := deepGlobs } } none =
        .error (.invalidGlob (String.intercalate ", " deepGlobs)) ∧
      String.intercalate ", " deepGlobs ∉ deepGlobs := by
  have readable : ∀ glob ∈ deepGlobs, Glob.IsReadable glob := by
    intro glob listed
    rcases List.mem_cons.1 listed with rfl | listed
    · exact Option.isSome_iff_exists.1 (by decide +kernel)
    · rcases List.mem_singleton.1 listed with rfl
      exact ⟨_, parse?_nested 300⟩
  have deep : IsTooDeep (Glob.nested 300) := isTooDeep_nested (by decide)
  refine ⟨readable, ?_, ?_⟩
  · apply ofPolicy_eq_error_of_fault
    refine .nesting (fun phrase listed => by cases listed) readable ?_ deep
    exact List.mem_cons_of_mem _ (List.mem_singleton_self _)
  · intro listed
    have length : (Glob.nested 300).length = 601 := by
      rw [Glob.nested, String.length_ofList, List.length_append, List.length_cons]
      simp only [List.length_replicate]
    have joined : (String.intercalate ", " deepGlobs).length = 7 + 2 + 601 := by
      change ("docs/**" ++ ", " ++ Glob.nested 300).length = _
      rw [String.length_append, String.length_append, length]
      rfl
    rcases List.mem_cons.1 listed with same | listed
    · cases joined.symm.trans (congrArg String.length same)
    · rw [List.mem_singleton.1 listed, length] at joined
      cases joined

end Nested

end Precommit
