import Precommit.Proofs.Pattern.Language
import Precommit.Proofs.Text.Boundaries

/-!
# Agreement up to case

Two texts agree up to case if they fold to the same text. A set that is closed under case has
the characters that fold like one of its members, if all of these are of ASCII; the long s and
the Kelvin sign are then among them (`contains_caseless_iff`). So patterns in which case does not
matter describe what agrees with one of a list of texts (`upToCase`).
-/

namespace Precommit

namespace Unicode

/-- What holds of all codes of ASCII holds of its characters. -/
theorem forall_ascii (holds : Char → Prop) (each : ∀ code < 0x80, holds (Char.ofNat code))
    {character : Char} (ascii : character.toNat < 0x80) : holds character := by
  have found := each character.toNat ascii
  rwa [Char.ofNat_toNat] at found

/-- What becomes of a character of ASCII as a small letter. -/
theorem toLower_of_ascii {character : Char} (ascii : character.toNat < 0x80) :
    character.toLower.toNat < 0x80 ∧ character.toLower.isUpper = false ∧
      character ∈ asciiCaseVariants character.toLower ∧
      (character.isAlpha = false ∨ character.toLower.isAlpha = false →
        character.toLower = character) := by
  exact forall_ascii
    (fun character => character.toLower.toNat < 0x80 ∧ character.toLower.isUpper = false ∧
      character ∈ asciiCaseVariants character.toLower ∧
      (character.isAlpha = false ∨ character.toLower.isAlpha = false →
        character.toLower = character))
    (by decide +kernel) ascii

/-- Whether all characters are of ASCII. -/
def areAscii (characters : List Char) : Bool :=
  characters.all fun character => character.toNat < 0x80

theorem areAscii_iff {characters : List Char} :
    areAscii characters = true ↔ ∀ character ∈ characters, character.toNat < 0x80 := by
  simp only [areAscii, List.all_eq_true, decide_eq_true_eq]

/-! ### The table of foldings -/

/--
The foldings in the table are of characters beyond ASCII. They lead to characters beyond ASCII,
or to the small letters `s` and `k`.
-/
theorem beyond_foldRuns : ∀ run ∈ foldRuns,
    (0x80 ≤ run.first ∧ run.first ≤ run.last ∧
      (run.last < 0xD800 ∨ 0xE000 ≤ run.first ∧ run.last < 0x110000)) ∧
    (run.first = run.last ∧ (run.image = 0x73 ∨ run.image = 0x6B) ∨
      0x80 ≤ run.image ∧ (run.image + (run.last - run.first) < 0xD800 ∨
        0xE000 ≤ run.image ∧ run.image + (run.last - run.first) < 0x110000)) := by
  decide +kernel

theorem toNat_ofNat_source {run : FoldRun} (listed : run ∈ foldRuns) {code source : Nat}
    (found : run.source? code = some source) : 0x80 ≤ (Char.ofNat source).toNat := by
  simp only [FoldRun.source?, Option.ite_none_right_eq_some, Bool.and_eq_true,
    decide_eq_true_eq, Option.some.injEq] at found
  have sources := (beyond_foldRuns run listed).1
  have valid : source.isValidChar := by
    unfold Nat.isValidChar
    omega
  rw [Utf8.toNat_ofNat, if_pos valid]
  omega

theorem ofNat_target {run : FoldRun} (listed : run ∈ foldRuns) {code target : Nat}
    (found : run.target? code = some target) :
    Char.ofNat target = 's' ∨ Char.ofNat target = 'k' ∨ 0x80 ≤ (Char.ofNat target).toNat := by
  simp only [FoldRun.target?, Option.ite_none_right_eq_some, Bool.and_eq_true,
    decide_eq_true_eq, Option.some.injEq] at found
  rcases (beyond_foldRuns run listed).2 with ⟨only, small | small⟩ | ⟨large, valid⟩
  · left
    have code : target = 0x73 := by omega
    rw [code]
  · right
    left
    have code : target = 0x6B := by omega
    rw [code]
  · right
    right
    have valid : target.isValidChar := by
      unfold Nat.isValidChar
      omega
    rw [Utf8.toNat_ofNat, if_pos valid]
    omega

/-! ### The folding of a character -/

theorem foldCase_of_ascii {character : Char} (ascii : character.toNat < 0x80) :
    foldCase character = character.toLower :=
  if_pos ascii

/-- Of the characters beyond ASCII only the long s and the Kelvin sign fold to one of ASCII. -/
theorem foldCase_beyond {character : Char} (beyond : ¬character.toNat < 0x80) :
    foldCase character = 's' ∨ foldCase character = 'k' ∨
      0x80 ≤ (foldCase character).toNat := by
  rw [foldCase, if_neg beyond]
  split
  next target found =>
    rcases List.exists_of_findSome?_eq_some found with ⟨run, listed, target⟩
    exact ofNat_target listed target
  next => exact .inr (.inr (Nat.le_of_not_lt beyond))

theorem isUpper_foldCase {character : Char} (ascii : (foldCase character).toNat < 0x80) :
    (foldCase character).isUpper = false := by
  by_cases small : character.toNat < 0x80
  · rw [foldCase_of_ascii small]
    exact (toLower_of_ascii small).2.1
  · rcases foldCase_beyond small with same | same | large
    · rw [same]
      rfl
    · rw [same]
      rfl
    · exact absurd ascii (Nat.not_lt_of_le large)

theorem mem_asciiCaseVariants_iff {folded variant : Char} (small : folded.toNat < 0x80)
    (notUpper : folded.isUpper = false) (ascii : variant.toNat < 0x80) :
    variant ∈ asciiCaseVariants folded ↔ folded = variant.toLower := by
  constructor
  · intro listed
    have variants := forall_ascii (fun folded => folded.isUpper = false →
      ((asciiCaseVariants folded).all fun variant =>
        variant.toNat < 0x80 → folded = variant.toLower) = true)
      (by decide +kernel) small notUpper
    exact of_decide_eq_true (List.all_eq_true.1 variants variant listed) ascii
  · rintro rfl
    exact (toLower_of_ascii ascii).2.2.1

theorem mem_caseVariants_iff {character variant : Char} (ascii : variant.toNat < 0x80) :
    variant ∈ caseVariants character ↔ foldCase character = foldCase variant := by
  have lower := (toLower_of_ascii ascii).1
  rw [foldCase_of_ascii ascii]
  unfold caseVariants
  by_cases small : (foldCase character).toNat < 0x80
  · rw [if_pos small]
    exact mem_asciiCaseVariants_iff small (isUpper_foldCase small) ascii
  · rw [if_neg small]
    refine iff_of_false ?_ fun same => small (same ▸ lower)
    rw [List.mem_cons, List.mem_map]
    rintro (rfl | ⟨source, found, rfl⟩)
    · exact small ascii
    · rcases List.mem_filterMap.1 found with ⟨run, listed, source⟩
      exact absurd (toNat_ofNat_source listed source) (Nat.not_le_of_lt ascii)

/-- Characters of ASCII other than letters agree with themselves only. -/
theorem foldCase_eq_iff {character other : Char} (ascii : other.toNat < 0x80)
    (noLetter : other.isAlpha = false) :
    foldCase character = foldCase other ↔ character = other := by
  have same := (toLower_of_ascii ascii).2.2.2 (.inl noLetter)
  refine ⟨?_, congrArg foldCase⟩
  rw [foldCase_of_ascii ascii, same]
  by_cases small : character.toNat < 0x80
  · rw [foldCase_of_ascii small]
    rintro rfl
    exact ((toLower_of_ascii small).2.2.2 (.inr noLetter)).symm
  · rintro rfl
    rcases foldCase_beyond small with same | same | large
    · rw [same] at noLetter
      cases noLetter
    · rw [same] at noLetter
      cases noLetter
    · exact absurd ascii (Nat.not_lt_of_le large)

/-! ### Texts up to case -/

/-- The texts are the same up to case, character by character. -/
def AgreeUpToCase (text text' : List Char) : Prop :=
  text.map foldCase = text'.map foldCase

theorem agreeUpToCase_append_iff {text left right : List Char} :
    AgreeUpToCase text (left ++ right) ↔
      ∃ text₁ text₂, text = text₁ ++ text₂ ∧ AgreeUpToCase text₁ left ∧
        AgreeUpToCase text₂ right := by
  simp only [AgreeUpToCase, List.map_append, List.map_eq_append_iff]

theorem AgreeUpToCase.length_eq {text text' : List Char} (agrees : AgreeUpToCase text text') :
    text.length = text'.length := by
  simpa using congrArg List.length agrees

/-- What has no case is in both texts or in neither. -/
theorem AgreeUpToCase.mem_iff {text text' : List Char} (agrees : AgreeUpToCase text text')
    {character : Char} (ascii : character.toNat < 0x80) (noLetter : character.isAlpha = false) :
    character ∈ text ↔ character ∈ text' := by
  have inFolded (text : List Char) :
      character ∈ text ↔ foldCase character ∈ text.map foldCase := by
    simp [List.mem_map, foldCase_eq_iff ascii noLetter]
  rw [inFolded, inFolded, agrees]

/-- What agrees with one of the texts up to case. -/
def upToCase (texts : List String) : Language Char :=
  {stretch | ∃ text ∈ texts, AgreeUpToCase stretch text.toList}

theorem mem_upToCase_iff {texts : List String} {stretch : List Char} :
    stretch ∈ upToCase texts ↔ ∃ text ∈ texts, AgreeUpToCase stretch text.toList :=
  Iff.rfl

theorem one_eq_upToCase : 1 = upToCase [""] := by
  ext stretch
  simp [mem_upToCase_iff, AgreeUpToCase, Language.mem_one]

theorem upToCase_add (texts texts' : List String) :
    upToCase texts + upToCase texts' = upToCase (texts ++ texts') := by
  ext stretch
  simp only [Language.mem_add, mem_upToCase_iff, List.mem_append, or_and_right, exists_or]

theorem upToCase_mul (lefts rights : List String) :
    upToCase lefts * upToCase rights =
      upToCase (lefts.flatMap fun left => rights.map fun right => left ++ right) := by
  ext stretch
  simp only [mem_mul_iff_split, mem_upToCase_iff, List.mem_flatMap, List.mem_map]
  constructor
  · rintro ⟨text, text', split, ⟨left, listed, agrees⟩, right, listed', agrees'⟩
    refine ⟨left ++ right, ⟨left, listed, right, listed', rfl⟩, ?_⟩
    rw [String.toList_append, agreeUpToCase_append_iff]
    exact ⟨text, text', split, agrees, agrees'⟩
  · rintro ⟨_, ⟨left, listed, right, listed', rfl⟩, agrees⟩
    rw [String.toList_append, agreeUpToCase_append_iff] at agrees
    rcases agrees with ⟨text, text', split, agrees, agrees'⟩
    exact ⟨text, text', split, ⟨left, listed, agrees⟩, right, listed', agrees'⟩

end Unicode

namespace CharSet

open Unicode

theorem contains_caseless_iff {set : CharSet}
    (ascii : ∀ member, set.contains member = true → member.toNat < 0x80) {character : Char} :
    set.caseless.contains character = true ↔
      ∃ member, set.contains member = true ∧ foldCase character = foldCase member := by
  simp only [contains, List.any_eq_true]
  constructor
  · rintro ⟨variant, listed, member⟩
    exact ⟨variant, member, (mem_caseVariants_iff (ascii variant member)).1 listed⟩
  · rintro ⟨member, isMember, same⟩
    exact ⟨member, (mem_caseVariants_iff (ascii member isMember)).2 same, isMember⟩

/-- Closing a set of characters that have no case changes nothing. -/
theorem contains_caseless_ofList_iff (characters : List Char) {character : Char}
    (uncased : (characters.all fun member => member.toNat < 0x80 && !member.isAlpha) = true) :
    (caseless (ofList characters)).contains character = true ↔ character ∈ characters := by
  simp only [List.all_eq_true, Bool.and_eq_true, decide_eq_true_eq,
    Bool.not_eq_true'] at uncased
  have ascii : ∀ member, (ofList characters).contains member = true → member.toNat < 0x80 := by
    intro member listed
    exact (uncased member (contains_ofList_iff.1 listed)).1
  rw [contains_caseless_iff ascii]
  simp only [contains_ofList_iff]
  constructor
  · rintro ⟨member, listed, same⟩
    rcases uncased member listed with ⟨small, noLetter⟩
    rwa [(foldCase_eq_iff small noLetter).1 same]
  · intro listed
    exact ⟨character, listed, rfl⟩

end CharSet

namespace Pattern

open Unicode

variable {pattern : Pattern} {texts : List String}

/-- The patterns for the characters of a text, in which case does not matter. -/
def caselessEach (text : String) : List Pattern :=
  text.toList.map fun character => char (.caseless (.single character))

theorem Describes.of_texts {texts' : List String} (describes : pattern.Describes (upToCase texts))
    (same : texts = texts') : pattern.Describes (upToCase texts') := by
  rwa [← same]

theorem Describes.optional_upToCase (describes : pattern.Describes (upToCase texts)) :
    pattern.optional.Describes (upToCase (texts ++ [""])) := by
  rw [← upToCase_add, ← one_eq_upToCase]
  exact describes.optional

theorem describes_caseless_ofList (characters : List Char)
    (ascii : areAscii characters = true) :
    (char (.caseless (.ofList characters))).Describes
      (upToCase (characters.map String.singleton)) := by
  have members : ∀ member, (CharSet.ofList characters).contains member = true →
      member.toNat < 0x80 := by
    intro member listed
    exact areAscii_iff.1 ascii member (CharSet.contains_ofList_iff.1 listed)
  intro before stretch after
  rw [describes_char _ before stretch after]
  simp only [CharSet.mem_one_iff, CharSet.contains_caseless_iff members,
    CharSet.contains_ofList_iff, mem_upToCase_iff, List.mem_map, exists_exists_and_eq_and,
    AgreeUpToCase, String.toList_singleton, List.map_singleton, List.map_eq_singleton_iff]
  constructor
  · rintro ⟨character, ⟨member, listed, same⟩, rfl⟩
    exact ⟨member, listed, character, rfl, same⟩
  · rintro ⟨member, listed, character, rfl, same⟩
    exact ⟨character, ⟨member, listed, same⟩, rfl⟩

theorem describesEach_caselessEach (text : String) (ascii : areAscii text.toList = true) :
    DescribesEach (caselessEach text) (upToCase [text]) := by
  rw [caselessEach, ← String.ofList_toList (s := text)]
  generalize text.toList = characters at ascii
  rw [String.toList_ofList]
  induction characters with
  | nil =>
      rw [String.ofList_nil, ← one_eq_upToCase]
      exact describesEach_nil
  | cons character rest ih =>
      rw [areAscii, List.all_cons, Bool.and_eq_true] at ascii
      have first := describes_caseless_ofList [character] (by simpa [areAscii] using ascii.1)
      have whole := first.cons (ih ascii.2)
      rw [upToCase_mul] at whole
      have joined : String.ofList (character :: rest) =
          String.singleton character ++ String.ofList rest := by
        rw [String.singleton_eq_ofList, ← String.ofList_append, List.singleton_append]
      rw [joined]
      exact whole

end Pattern

end Precommit
