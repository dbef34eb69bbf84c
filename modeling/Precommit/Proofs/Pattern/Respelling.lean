import Precommit.Proofs.Pattern.LeadingText
import Precommit.Proofs.Unicode.CaseFolding

/-!
# Respelled texts

A text is spelled in another way if some of its characters change their case, or if some of its
white space is of another kind, line feeds apart. A pattern without assertions takes no notice of
this if none of its character sets does: then the search of both texts makes the same progress,
one character after the other (`isMatch_respelled`). The built-in phrases are such patterns.

White space has no case, so that both changes can be told apart.
-/

namespace Precommit

namespace Unicode

/-- The white space characters, one by one. -/
def blanks : List Char :=
  blankRanges.flatMap fun (first, last) => (List.range' first (last + 1 - first)).map Char.ofNat

theorem mem_blanks {character : Char} (blank : isBlank character = true) :
    character ∈ blanks := by
  rcases List.any_eq_true.1 blank with ⟨⟨first, last⟩, listed, within⟩
  simp only [Bool.and_eq_true, decide_eq_true_eq] at within
  refine List.mem_flatMap.2 ⟨(first, last), listed, ?_⟩
  refine List.mem_map.2 ⟨character.toNat, ?_, Char.ofNat_toNat character⟩
  rw [List.mem_range'_1]
  omega

/-- The characters agree up to case, or both are white space other than a line feed. -/
def Alike (character character' : Char) : Prop :=
  foldCase character = foldCase character' ∨
    (isBlank character = true ∧ character ≠ '\n') ∧ isBlank character' = true ∧ character' ≠ '\n'

instance : DecidableRel Alike :=
  fun _ _ => inferInstanceAs (Decidable (_ ∨ _))

/-- The texts are the same but for the case of characters and the kind of white space. -/
def Respelled (text text' : List Char) : Prop :=
  List.Forall₂ Alike text text'

instance : DecidableRel Respelled :=
  fun _ _ => inferInstanceAs (Decidable (List.Forall₂ _ _ _))

/-! ### White space has no case -/

/-- No folding in the table is of white space or leads there. -/
theorem foldRuns_avoid_blanks : ∀ run ∈ foldRuns, ∀ blanks ∈ blankRanges,
    (blanks.2 < run.first ∨ run.last < blanks.1) ∧
      (blanks.2 < run.image ∨ run.image + (run.last - run.first) < blanks.1) := by
  decide +kernel

theorem isBlank_eq_false {character : Char}
    (outside : ∀ blanks ∈ blankRanges,
      blanks.2 < character.toNat ∨ character.toNat < blanks.1) :
    isBlank character = false := by
  rw [isBlank, List.any_eq_false]
  intro blanks listed
  have apart := outside blanks listed
  simp only [Bool.and_eq_true, decide_eq_true_eq]
  omega

theorem isBlank_source {run : FoldRun} (listed : run ∈ foldRuns) {character : Char} {target : Nat}
    (found : run.target? character.toNat = some target) :
    isBlank character = false ∧ isBlank (Char.ofNat target) = false := by
  simp only [FoldRun.target?, Option.ite_none_right_eq_some, Bool.and_eq_true,
    decide_eq_true_eq, Option.some.injEq] at found
  constructor
  · apply isBlank_eq_false
    intro blanks member
    have avoided := (foldRuns_avoid_blanks run listed blanks member).1
    omega
  · apply isBlank_eq_false
    intro blanks member
    have avoided := (foldRuns_avoid_blanks run listed blanks member).2
    have visible : 0 < blanks.1 := by
      have least : ∀ blanks ∈ blankRanges, 0 < blanks.1 := by decide
      exact least blanks member
    rw [Utf8.toNat_ofNat]
    split
    · omega
    · exact .inr visible

theorem isBlank_foldCase (character : Char) : isBlank (foldCase character) = isBlank character := by
  by_cases ascii : character.toNat < 0x80
  · rw [foldCase_of_ascii ascii]
    exact forall_ascii (fun character => isBlank character.toLower = isBlank character)
      (by decide +kernel) ascii
  · rw [foldCase, if_neg ascii]
    split
    next target found =>
      rcases List.exists_of_findSome?_eq_some found with ⟨run, listed, isTarget⟩
      rcases isBlank_source listed isTarget with ⟨source, target⟩
      rw [source, target]
    next => rfl

theorem isBlank_eq_of_foldCase_eq {character character' : Char}
    (same : foldCase character = foldCase character') :
    isBlank character = isBlank character' := by
  rw [← isBlank_foldCase character, same, isBlank_foldCase]

/-- A line feed is like itself only. -/
theorem Alike.eq_feed_iff {character character' : Char} (alike : Alike character character') :
    character = '\n' ↔ character' = '\n' := by
  rcases alike with same | ⟨⟨_, noFeed⟩, _, noFeed'⟩
  · have folds (other : Char) : foldCase other = foldCase '\n' ↔ other = '\n' :=
      foldCase_eq_iff (by decide) (by decide)
    rw [← folds, ← folds, same]
  · exact iff_of_false noFeed noFeed'

end Unicode

namespace CharSet

open Unicode

/-- Whether the set takes no notice of case, as far as its form tells. -/
def ignoresCase : CharSet → Bool
  | .range first last => first == last && first.toNat < 0x80 && !first.isAlpha
  | .blank => true
  | .decimal => false
  | .word => false
  | .property _ _ => false
  | .complement set => set.ignoresCase
  | .union left right => left.ignoresCase && right.ignoresCase
  | .intersection left right => left.ignoresCase && right.ignoresCase
  | .caseless _ => true

/-- Whether the set has all white space but line feeds in it, or none of it. -/
def ignoresBlanks (set : CharSet) : Bool :=
  blanks.all fun character => character == '\n' || set.contains character == set.contains ' '

variable {set : CharSet} {character character' : Char}

theorem contains_eq_of_foldCase_eq (ignores : set.ignoresCase = true)
    (same : foldCase character = foldCase character') :
    set.contains character = set.contains character' := by
  induction set with
  | range first last =>
      simp only [ignoresCase, Bool.and_eq_true, beq_iff_eq, decide_eq_true_eq,
        Bool.not_eq_true'] at ignores
      rcases ignores with ⟨⟨rfl, ascii⟩, noLetter⟩
      have only (other : Char) : (range first first).contains other = true ↔
          foldCase other = foldCase first :=
        contains_single_iff.trans (foldCase_eq_iff ascii noLetter).symm
      rw [Bool.eq_iff_iff, only, only, same]
  | blank => exact isBlank_eq_of_foldCase_eq same
  | complement set ih => rw [contains, contains, ih ignores]
  | union left right ihLeft ihRight | intersection left right ihLeft ihRight =>
      rw [ignoresCase, Bool.and_eq_true] at ignores
      rw [contains, contains, ihLeft ignores.1, ihRight ignores.2]
  | caseless set =>
      rw [contains, contains, caseVariants, caseVariants, same]
  | decimal | word | property => cases ignores

theorem contains_of_ignoresBlanks (ignores : set.ignoresBlanks = true)
    (blank : isBlank character = true) (noFeed : character ≠ '\n') :
    set.contains character = set.contains ' ' := by
  have each := List.all_eq_true.1 ignores character (mem_blanks blank)
  rw [Bool.or_eq_true, beq_iff_eq, beq_iff_eq] at each
  exact each.resolve_left noFeed

theorem contains_eq_of_alike (ignoresCase : set.ignoresCase = true)
    (ignoresBlanks : set.ignoresBlanks = true) (alike : Alike character character') :
    set.contains character = set.contains character' := by
  rcases alike with same | ⟨⟨blank, noFeed⟩, blank', noFeed'⟩
  · exact contains_eq_of_foldCase_eq ignoresCase same
  · rw [contains_of_ignoresBlanks ignoresBlanks blank noFeed,
      contains_of_ignoresBlanks ignoresBlanks blank' noFeed']

end CharSet

namespace Pattern

open Unicode

/-- Whether neither case nor the kind of white space matters to the pattern. -/
def ignoresSpelling : Pattern → Bool
  | .empty => true
  | .char set => set.ignoresCase && set.ignoresBlanks
  | .assertion _ => false
  | .sequence first second => first.ignoresSpelling && second.ignoresSpelling
  | .alternative left right => left.ignoresSpelling && right.ignoresSpelling
  | .repeated body => body.ignoresSpelling

variable {pattern : Pattern}

theorem isPlaceless_of_ignoresSpelling (ignores : pattern.ignoresSpelling = true) :
    pattern.isPlaceless = true := by
  induction pattern with
  | empty | char => rfl
  | assertion => cases ignores
  | sequence first second ihFirst ihSecond | alternative first second ihFirst ihSecond =>
      rw [ignoresSpelling, Bool.and_eq_true] at ignores
      rw [isPlaceless, ihFirst ignores.1, ihSecond ignores.2, Bool.and_self]
  | repeated body ih => exact ih ignores

/-- Characters that are alike bring the search of a text to the same progress. -/
theorem advance_alike (ignores : pattern.ignoresSpelling = true) {character character' : Char}
    (alike : Alike character character') (place place' : Place) (enter : Bool)
    (progress : Progress) :
    pattern.advance place character enter progress =
      pattern.advance place' character' enter progress := by
  rw [advance_eq (isPlaceless_of_ignoresSpelling ignores) place place']
  induction pattern generalizing enter progress with
  | empty => rfl
  | char set =>
      rw [ignoresSpelling, Bool.and_eq_true] at ignores
      simp only [advance, CharSet.contains_eq_of_alike ignores.1 ignores.2 alike]
  | assertion => cases ignores
  | sequence first second ihFirst ihSecond =>
      rw [ignoresSpelling, Bool.and_eq_true] at ignores
      simp only [advance, ihFirst ignores.1, ihSecond ignores.2]
  | alternative left right ihLeft ihRight =>
      rw [ignoresSpelling, Bool.and_eq_true] at ignores
      simp only [advance, ihLeft ignores.1, ihRight ignores.2]
  | repeated body ih =>
      rw [ignoresSpelling] at ignores
      simp only [advance, ih ignores]

theorem searchFrom_respelled (ignores : pattern.ignoresSpelling = true) {text text' : List Char}
    (respelled : Respelled text text') (progress : Progress) (before before' : Option Char) :
    pattern.searchFrom progress before text = pattern.searchFrom progress before' text' := by
  have placeless := isPlaceless_of_ignoresSpelling ignores
  induction respelled generalizing progress before before' with
  | nil => exact searchFrom_eq placeless progress before before' []
  | @cons character character' text text' alike _ ih =>
      rw [searchFrom, searchFrom,
        acceptsEmpty_eq placeless ⟨before, some character⟩ ⟨before', some character'⟩,
        canEnd_eq placeless ⟨before, some character⟩ ⟨before', some character'⟩,
        advance_alike ignores alike ⟨before, some character⟩ ⟨before', some character'⟩]
      simp only [ih _ (some character) (some character')]

/-- A text matches exactly if it matches in another spelling. -/
theorem isMatch_respelled (ignores : pattern.ignoresSpelling = true) {text text' : List Char}
    (respelled : Respelled text text') : pattern.isMatch text = pattern.isMatch text' :=
  searchFrom_respelled ignores respelled .idle none none

/-- The text is a pattern to which spelling does not matter. -/
def textIgnoresSpelling (caseless : Bool) (text : String) : Bool :=
  (parse? { caseless := caseless } text.toList).any ignoresSpelling

end Pattern

namespace Builtin

/-- Spelling does not matter to the built-in phrases. -/
theorem phrases_ignoreSpelling :
    (forbiddenPhrases.all fun text => Pattern.textIgnoresSpelling true text.source) = true := by
  simp only [Pattern.textIgnoresSpelling, Utf8.toList_eq_decode]
  decide +kernel

end Builtin

end Precommit
