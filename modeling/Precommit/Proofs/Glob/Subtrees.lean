import Precommit.Glob.Parser
import Precommit.Proofs.Pattern.Language
import Precommit.Proofs.Text.Boundaries

/-!
# Globs for subtrees

A glob that ends in `/**` matches the paths that have a slash after something that the parts
before match (`isMatch_trailing_iff`). So the glob of a directory with `/**` after it matches
the paths below the directory, and with `/**/` and the name of a directory in between those below
directories of that name. Globs go by bytes, but a byte of a slash is always a slash of the path.
-/

namespace Precommit

namespace Pattern

variable {pattern pattern' : Pattern} {language language' : Language Char}

theorem Describes.isMatch_whole_iff (describes : pattern.Describes language) (text : List Char) :
    pattern.whole.isMatch text = true ↔ text ∈ language := by
  simp only [Pattern.isMatch_iff, Matches, whole, accepts_sequence_iff, accepts_assertion_iff,
    Assertion.holds_textStart_iff, Assertion.holds_textEnd_iff]
  constructor
  · rintro ⟨before, stretch, after, rfl, _, _, rfl, ⟨rfl, rfl⟩, inner, _, rfl, accepted, rfl, rfl⟩
    simpa using (describes _ _ _).1 accepted
  · intro member
    refine ⟨[], text, [], by simp, [], text, rfl, ⟨rfl, rfl⟩, text, [], by simp, ?_, rfl, rfl⟩
    exact (describes _ _ _).2 member

theorem Describes.alternative (left : pattern.Describes language)
    (right : pattern'.Describes language') :
    (pattern.alternative pattern').Describes (language + language') := by
  intro before stretch after
  rw [accepts_alternative_iff, left _ _ _, right _ _ _, Language.mem_add]

end Pattern

namespace Glob

/-- The bytes of a path, as characters. -/
def pathBytes (path : List Char) : List Char :=
  (Utf8.encode path).map GlobPart.byteChar

theorem pathBytes_append (left right : List Char) :
    pathBytes (left ++ right) = pathBytes left ++ pathBytes right := by
  rw [pathBytes, Utf8.encode, List.flatMap_append, List.map_append]
  rfl

theorem pathBytes_cons (character : Char) (rest : List Char) :
    pathBytes (character :: rest) = pathBytes [character] ++ pathBytes rest :=
  pathBytes_append [character] rest

theorem pathBytes_slash (rest : List Char) : pathBytes ('/' :: rest) = '/' :: pathBytes rest :=
  pathBytes_cons '/' rest

theorem byteChar_injective : Function.Injective GlobPart.byteChar := by
  have value (byte : UInt8) : (GlobPart.byteChar byte).toNat = byte.toNat := by
    have bound := byte.toNat_lt
    have valid : byte.toNat.isValidChar := by
      unfold Nat.isValidChar
      omega
    rw [GlobPart.byteChar, Utf8.toNat_ofNat, if_pos valid]
  intro byte byte' same
  rw [← UInt8.toNat_inj, ← value, ← value, same]

theorem pathBytes_injective : Function.Injective pathBytes := by
  intro path path' same
  have bytes := List.map_injective_iff.2 byteChar_injective same
  have decoded := congrArg Utf8.decodeLossy bytes
  rwa [Utf8.decodeLossy_encode, Utf8.decodeLossy_encode] at decoded

/-- The slashes among the bytes of a path are the slashes of the path. -/
theorem pathBytes_eq_append_slash_iff {path before after : List Char} :
    pathBytes path = before ++ '/' :: after ↔
      ∃ left right, path = left ++ '/' :: right ∧ pathBytes left = before ∧
        pathBytes right = after := by
  constructor
  · intro split
    induction path generalizing before with
    | nil => simp [pathBytes, Utf8.encode] at split
    | cons character path ih =>
        rw [pathBytes_cons] at split
        rcases List.append_eq_append_iff.1 split with ⟨more, rfl, rest⟩ | ⟨more, whole, rest⟩
        · rcases ih rest with ⟨left, right, rfl, rfl, rfl⟩
          exact ⟨character :: left, right, rfl, pathBytes_cons character left, rfl⟩
        · cases more with
          | nil =>
              rcases @ih [] rest.symm with ⟨left, right, rfl, empty, rfl⟩
              refine ⟨character :: left, right, rfl, ?_, rfl⟩
              rw [pathBytes_cons, empty, whole, List.append_nil, List.append_nil]
          | cons slash more =>
              obtain ⟨rfl, rfl⟩ := List.cons.inj rest
              -- A character with this byte has no other.
              have listed : '/' ∈ pathBytes [character] := by simp [whole]
              rcases List.mem_map.1 listed with ⟨byte, member, same⟩
              obtain rfl : byte = 0x2F := byteChar_injective same
              obtain rfl := List.mem_singleton.1 (Utf8.mem_of_mem_encode (by decide) member)
              have whole : ['/'] = before ++ '/' :: more := whole
              cases before with
              | nil =>
                  obtain rfl := (List.cons.inj whole).2
                  exact ⟨[], path, rfl, rfl, rfl⟩
              | cons first before => simp at whole
  · rintro ⟨left, right, rfl, rfl, rfl⟩
    exact pathBytes_append left ('/' :: right)

end Glob

namespace GlobPart

open Pattern

/-- The parts for the characters of a text. -/
def literals (text : List Char) : List GlobPart :=
  text.map literal

theorem describesEach_literals (text : List Char) :
    DescribesEach ((literals text).map pattern) {Glob.pathBytes text} := by
  induction text with
  | nil => exact describesEach_nil
  | cons character rest ih =>
      have first : (literal character).pattern.Describes {Glob.pathBytes [character]} :=
        describes_text _
      have joined : ({Glob.pathBytes [character]} * {Glob.pathBytes rest} : Language Char) =
          {Glob.pathBytes (character :: rest)} := by
        ext stretch
        rw [mem_mul_iff_split, Glob.pathBytes_cons character rest]
        constructor
        · rintro ⟨_, _, rfl, rfl, rfl⟩
          rfl
        · rintro rfl
          exact ⟨_, _, rfl, rfl, rfl⟩
      rw [← joined]
      exact first.cons ih

theorem mem_slash_iff {stretch : List Char} :
    stretch ∈ (CharSet.single '/').one ↔ stretch = ['/'] := by
  simp only [CharSet.mem_one_iff, CharSet.contains_single_iff, exists_eq_left]

theorem mem_run (stretch : List Char) : stretch ∈ CharSet.all.many 0 := by
  simp [CharSet.contains_all]

theorem describes_trailing :
    trailing.pattern.Describes ((CharSet.single '/').one * CharSet.all.many 0) :=
  (describes_char _).sequence (describes_star_char _)

theorem describes_middle :
    middle.pattern.Describes ((CharSet.single '/').one +
      (CharSet.single '/').one * (CharSet.all.many 0 * (CharSet.single '/').one)) :=
  (describes_char _).alternative
    ((describes_char _).sequence ((describes_star_char _).sequence (describes_char _)))

end GlobPart

namespace Glob

open GlobPart

variable {parts : List GlobPart} {path : List Char}

theorem suffix_of_cons {part : GlobPart} (ends : [trailing] <:+ part :: parts)
    (other : part ≠ trailing) : [trailing] <:+ parts := by
  rcases List.suffix_cons_iff.1 ends with same | ends
  · exact absurd (List.cons.inj same).1.symm other
  · exact ends

theorem text?_of_suffix (ends : [trailing] <:+ parts) : text? parts = none := by
  rcases ends with ⟨before, rfl⟩
  simp [text?, literal?]

/-- The name of a path plays no part for a glob that ends in `/**`. -/
theorem form_of_suffix (ends : [trailing] <:+ parts) :
    GlobForm.ofParts parts = .text ∨ GlobForm.ofParts parts = .general := by
  have notName : GlobForm.isName parts = false := by
    unfold GlobForm.isName
    split
    · rw [text?_of_suffix (suffix_of_cons ends GlobPart.noConfusion), Option.any_none]
    · rfl
  have notExtension : GlobForm.isExtension parts = false := by
    have ends' : [trailing] <:+ GlobForm.dropLeading parts := by
      unfold GlobForm.dropLeading
      split
      · exact suffix_of_cons ends GlobPart.noConfusion
      · exact ends
    unfold GlobForm.isExtension
    split
    · rename_i same
      rw [same] at ends'
      have ends' := suffix_of_cons (suffix_of_cons ends' GlobPart.noConfusion)
        GlobPart.noConfusion
      rw [text?_of_suffix ends', Option.any_none]
    · rfl
  have noExtension : GlobForm.endsInExtension parts.reverse = false := by
    rcases ends with ⟨before, rfl⟩
    rw [List.reverse_append]
    rfl
  rw [GlobForm.ofParts, notName, notExtension, noExtension]
  split
  · contradiction
  · split
    · exact .inl rfl
    · exact .inr rfl

theorem pattern_of_suffix (ends : [trailing] <:+ parts) :
    (ofParts parts).pattern = Pattern.sequenceAll (parts.map GlobPart.pattern) := by
  unfold ofParts
  dsimp only
  split
  · exact absurd (suffix_of_cons ends GlobPart.noConfusion) (by simp)
  · rfl

/-- A glob that ends in `/**` matches what has a slash after something that the rest matches. -/
theorem isMatch_trailing_iff {language : Language Char}
    (describes : Pattern.DescribesEach (parts.map GlobPart.pattern) language) :
    (ofParts (parts ++ [trailing])).isMatch path = true ↔
      ∃ before after, path = before ++ '/' :: after ∧ pathBytes before ∈ language := by
  have ends : [trailing] <:+ parts ++ [trailing] := List.suffix_append _ _
  have named : ((ofParts (parts ++ [trailing])).form == .text ||
      (ofParts (parts ++ [trailing])).form == .general || hasName path) = true := by
    rcases form_of_suffix ends with same | same <;> simp [ofParts, same]
  have whole := (describes.append describes_trailing.last).sequenceAll
  rw [← List.map_singleton, ← List.map_append, ← pattern_of_suffix ends] at whole
  rw [isMatch, named, Bool.true_and, whole.isMatch_whole_iff, ← pathBytes]
  simp only [mem_mul_iff_split, mem_slash_iff]
  constructor
  · rintro ⟨left, _, split, member, _, right, rfl, rfl, _⟩
    rcases pathBytes_eq_append_slash_iff.1 split with ⟨before, after, rfl, rfl, rfl⟩
    exact ⟨before, after, rfl, member⟩
  · rintro ⟨before, after, rfl, member⟩
    exact ⟨_, _, pathBytes_append _ _, member, _, _, pathBytes_cons _ _, rfl, mem_run _⟩

/-- The glob of a directory with `/**` after it matches the paths below the directory. -/
theorem isMatch_below_iff {directory : List Char} :
    (ofParts (literals directory ++ [trailing])).isMatch path = true ↔
      directory ++ ['/'] <+: path := by
  rw [isMatch_trailing_iff (describesEach_literals directory)]
  constructor
  · rintro ⟨before, after, rfl, same⟩
    obtain rfl := pathBytes_injective same
    exact ⟨after, by simp⟩
  · rintro ⟨after, rfl⟩
    exact ⟨directory, after, by simp, rfl⟩

/-- What is matched up to the last slash if `/**/` and a name come after a directory. -/
theorem pathBytes_mem_below_iff {directory name : List Char} :
    pathBytes path ∈ ({pathBytes directory} * (((CharSet.single '/').one +
        (CharSet.single '/').one * (CharSet.all.many 0 * (CharSet.single '/').one)) *
          {pathBytes name}) : Language Char) ↔
      path = directory ++ '/' :: name ∨
        ∃ between, path = directory ++ '/' :: (between ++ '/' :: name) := by
  simp only [mem_mul_iff_split, Language.mem_add, mem_slash_iff]
  constructor
  · rintro ⟨_, _, split, rfl, _, _, rfl, rfl | ⟨_, _, rfl, rfl, between, _, rfl, _, rfl⟩, rfl⟩
    · rcases pathBytes_eq_append_slash_iff.1 split with ⟨left, right, rfl, same, same'⟩
      rw [pathBytes_injective same, pathBytes_injective same']
      exact .inl rfl
    · rw [List.append_assoc, List.append_assoc] at split
      rcases pathBytes_eq_append_slash_iff.1 split with ⟨left, right, rfl, same, split'⟩
      rcases pathBytes_eq_append_slash_iff.1 split' with ⟨inner, last, rfl, _, same'⟩
      rw [pathBytes_injective same, pathBytes_injective same']
      exact .inr ⟨inner, rfl⟩
  · rintro (rfl | ⟨between, rfl⟩)
    · exact ⟨_, _, pathBytes_append _ _, rfl, _, _, pathBytes_cons _ _, .inl rfl, rfl⟩
    · refine ⟨_, _, pathBytes_append _ _, rfl, ['/'] ++ (pathBytes between ++ ['/']), _, ?_,
        .inr ⟨_, _, rfl, rfl, _, _, rfl, mem_run _, rfl⟩, rfl⟩
      rw [pathBytes_slash, pathBytes_append, pathBytes_slash]
      simp

/--
With `/**/` and a name between the directory and `/**`, a glob matches the paths that lead
through a directory of that name somewhere below the directory.
-/
theorem isMatch_below_named_iff {directory name : List Char} :
    (ofParts (literals directory ++ middle :: literals name ++ [trailing])).isMatch path = true ↔
      ∃ below, path = directory ++ below ∧ ['/'] <+: below ∧ '/' :: (name ++ ['/']) <:+: below := by
  have describes := (describesEach_literals directory).append
    (describes_middle.cons (describesEach_literals name))
  rw [← List.map_cons, ← List.map_append] at describes
  rw [isMatch_trailing_iff describes]
  simp only [pathBytes_mem_below_iff]
  constructor
  · rintro ⟨before, after, rfl, rfl | ⟨between, rfl⟩⟩
    · exact ⟨'/' :: (name ++ '/' :: after), by simp, by simp, [], after, by simp⟩
    · exact ⟨'/' :: (between ++ '/' :: (name ++ '/' :: after)), by simp, by simp,
        '/' :: between, after, by simp⟩
  · rintro ⟨_, rfl, ⟨rest, rfl⟩, before, after, split⟩
    cases before with
    | nil =>
        refine ⟨directory ++ '/' :: name, after, ?_, .inl rfl⟩
        rw [← split]
        simp
    | cons slash between =>
        refine ⟨directory ++ '/' :: (between ++ '/' :: name), after, ?_, .inr ⟨between, rfl⟩⟩
        obtain ⟨rfl, rfl⟩ := List.cons.inj split
        simp

/-! ### Reading -/

/-- Whether the text has no characters with a role in globs. -/
def isPlain (text : List Char) : Bool :=
  text.all fun character => !(['?', '*', '[', '{', '}', ',', '\\'].contains character)

namespace Reader

variable {text : List Char}

theorem readFrom_plain (plain : isPlain text = true) (parts : List GlobPart)
    (previous : Option Char) (rest : List Char) :
    ∃ previous', readFrom ⟨[], parts, previous⟩ (text ++ rest) =
      readFrom ⟨[], (literals text).reverse ++ parts, previous'⟩ rest := by
  induction text generalizing parts previous with
  | nil => exact ⟨previous, rfl⟩
  | cons character text ih =>
      rw [isPlain, List.all_cons, Bool.and_eq_true] at plain
      rcases ih plain.2 (.literal character :: parts) (some character) with ⟨previous', read⟩
      have noRole : ∀ special ∈ ['?', '*', '[', '{', '}', ',', '\\'], character ≠ special := by
        rintro special listed rfl
        have absent := plain.1
        rw [List.contains_iff_mem.2 listed] at absent
        cases absent
      refine ⟨previous', ?_⟩
      rw [List.cons_append, readFrom]
      · rw [push, read, literals, literals, List.map_cons, List.reverse_cons, List.append_assoc]
        rfl
      all_goals simp at noRole; simp [noRole]

/-- Two stars after a slash, at the end. -/
theorem readFrom_trailing (parts : List GlobPart) (previous : Option Char) :
    readFrom ⟨[], parts, previous⟩ "/**".toList = some ⟨[], trailing :: parts, some '*'⟩ := by
  change readFrom ⟨[], parts, previous⟩ ['/', '*', '*'] = _
  rw [readFrom, readFrom]
  · change readFrom ⟨[], trailing :: parts, some '*'⟩ [] = _
    rw [readFrom]
  all_goals simp

/-- Two stars between slashes. -/
theorem readFrom_middle (parts : List GlobPart) (previous : Option Char) (rest : List Char) :
    readFrom ⟨[], parts, previous⟩ ("/**/".toList ++ rest) =
      readFrom ⟨[], middle :: parts, some '/'⟩ rest := by
  change readFrom ⟨[], parts, previous⟩ ('/' :: '*' :: '*' :: '/' :: rest) = _
  rw [readFrom, readFrom]
  · rfl
  all_goals simp

end Reader

variable {directory name : List Char}

theorem parse?_below (plain : isPlain directory = true) :
    parse? (directory ++ "/**".toList) = some (ofParts (literals directory ++ [trailing])) := by
  rcases Reader.readFrom_plain plain [] none "/**".toList with ⟨previous, read⟩
  rw [parse?, read, Reader.readFrom_trailing]
  simp

theorem parse?_below_named (plain : isPlain directory = true) (plain' : isPlain name = true) :
    parse? (directory ++ ("/**/".toList ++ (name ++ "/**".toList))) =
      some (ofParts (literals directory ++ middle :: literals name ++ [trailing])) := by
  rcases Reader.readFrom_plain plain [] none ("/**/".toList ++ (name ++ "/**".toList)) with
    ⟨previous, read⟩
  rcases Reader.readFrom_plain plain' (middle :: ((literals directory).reverse ++ []))
    (some '/') "/**".toList with ⟨previous', read'⟩
  rw [parse?, read, Reader.readFrom_middle, read', Reader.readFrom_trailing]
  simp

end Glob

end Precommit
