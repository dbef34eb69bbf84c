import Precommit.Proofs.Text.Boundaries
import Precommit.Proofs.Text.LineBreaks

/-!
# The lines of a file as bytes

Line ends are bytes of their own, so a line of a file is decoded for itself: the lines before
it and after it are those of the bytes before it and after it (`scannedLines_between`). It has
to be a line, though. Between a carriage return and a line feed there is no empty line, as
they are one line end.
-/

namespace Precommit

namespace Text

section Splice

variable {before after line : List Char}

/-- A text can be cut anywhere but between a carriage return and a line feed. -/
theorem joinBreaks_append_of_apart
    (apart : before.getLast? = some '\r' → after.head? ≠ some '\n') :
    joinBreaks (before ++ after) = joinBreaks before ++ joinBreaks after := by
  induction before using joinBreaks.induct with
  | case1 => rfl
  | case2 rest ih =>
      simp only [List.cons_append, joinBreaks]
      rw [ih]
      intro last
      apply apart
      rw [List.getLast?_cons_cons, List.getLast?_cons, last]
      rfl
  | case3 character rest noPair ih =>
      rw [List.cons_append, joinBreaks, joinBreaks, ih, List.cons_append]
      · intro last
        apply apart
        rw [List.getLast?_cons, last]
        rfl
      · exact noPair
      · rintro rest' rfl next
        cases rest with
        | nil => exact apart rfl (by rw [List.nil_append] at next; rw [next]; rfl)
        | cons character rest =>
            rw [List.cons_append] at next
            exact noPair rest rfl (by rw [(List.cons.inj next).1])

theorem universalBreaks_append_of_apart
    (apart : before.getLast? = some '\r' → after.head? ≠ some '\n') :
    universalBreaks (before ++ after) = universalBreaks before ++ universalBreaks after := by
  simp only [universalBreaks_eq, joinBreaks_append_of_apart apart, feedReturns, List.map_append]

/-- The replacement keeps the last character. -/
theorem getLast?_joinBreaks (text : List Char) : (joinBreaks text).getLast? = text.getLast? := by
  induction text using joinBreaks.induct with
  | case1 => rfl
  | case2 rest ih =>
      rw [joinBreaks, List.getLast?_cons, ih, List.getLast?_cons_cons, List.getLast?_cons]
  | case3 character rest noPair ih =>
      rw [joinBreaks, List.getLast?_cons, ih, List.getLast?_cons]
      exact noPair

/-- A normal form ends in a line feed if the text ends in a line end. -/
theorem getLast?_universalBreaks (ends : ∀ last ∈ before.getLast?, last = '\r' ∨ last = '\n') :
    ∀ last ∈ (universalBreaks before).getLast?, last = '\n' := by
  intro last member
  rw [universalBreaks_eq, feedReturns, List.getLast?_map, getLast?_joinBreaks] at member
  rcases Option.map_eq_some_iff.1 member with ⟨character, found, rfl⟩
  rcases ends character found with rfl | rfl <;> rfl

/-- A normal form begins with a line feed if the text begins with a line end. -/
theorem head?_universalBreaks (begins : ∀ first ∈ after.head?, first = '\r' ∨ first = '\n') :
    ∀ first ∈ (universalBreaks after).head?, first = '\n' := by
  intro first member
  cases after with
  | nil => cases member
  | cons character rest =>
      rcases begins character rfl with rfl | rfl
      · by_cases next : rest.head? = some '\n'
        · rcases List.head?_eq_some_iff.1 next with ⟨rest, rfl⟩
          rw [universalBreaks_pair] at member
          exact (Option.some.inj member).symm
        · rw [universalBreaks_return next] at member
          exact (Option.some.inj member).symm
      · rw [universalBreaks_feed] at member
        exact (Option.some.inj member).symm

theorem lines_append_of_ends (ends : ∀ last ∈ before.getLast?, last = '\n') (rest : List Char) :
    lines (before ++ rest) = (lines before).dropLast ++ lines rest := by
  cases last_eq : before.getLast? with
  | none =>
      rw [List.getLast?_eq_none_iff.1 last_eq]
      rfl
  | some last =>
      rcases List.getLast?_eq_some_iff.1 last_eq with ⟨kept, rfl⟩
      rw [ends last last_eq, lines, lines, lines, split_eq_splitOn, split_eq_splitOn,
        split_eq_splitOn, List.append_assoc, List.singleton_append,
        List.splitOn_append_cons_self, List.splitOn_append_cons_self, List.splitOn_nil,
        List.dropLast_concat]

theorem lines_append_of_begins (noFeed : '\n' ∉ line)
    (begins : ∀ first ∈ after.head?, first = '\n') :
    lines (line ++ after) = line :: (lines after).tail := by
  cases after with
  | nil =>
      rw [List.append_nil, lines_of_not_mem noFeed]
      rfl
  | cons first rest =>
      rw [begins first rfl, lines_append_feed noFeed,
        ← List.nil_append ('\n' :: rest), lines_append_feed List.not_mem_nil]
      rfl

/-- The lines around a line do not depend on that line. -/
theorem lines_universalBreaks_between (unbroken : IsUnbroken line)
    (begins : ∀ last ∈ before.getLast?, last = '\r' ∨ last = '\n')
    (ends : ∀ first ∈ after.head?, first = '\r' ∨ first = '\n')
    (apart : line = [] → before.getLast? = some '\r' → after.head? ≠ some '\n') :
    lines (universalBreaks (before ++ (line ++ after))) =
      (lines (universalBreaks before)).dropLast ++ line :: (lines (universalBreaks after)).tail := by
  have cut : universalBreaks (before ++ (line ++ after)) =
      universalBreaks before ++ universalBreaks (line ++ after) := by
    apply universalBreaks_append_of_apart
    intro last
    cases line with
    | nil => exact apart rfl last
    | cons character line =>
        rintro ⟨⟩
        exact unbroken.2 List.mem_cons_self
  rw [cut, universalBreaks_append unbroken.1,
    lines_append_of_ends (getLast?_universalBreaks begins),
    lines_append_of_begins unbroken.2 (head?_universalBreaks ends)]

end Splice

/-- The lines that are scanned in a file with the given content. -/
def scannedLines (content : Bytes) : List Line :=
  lines (universalBreaks (Utf8.decodeLossy content))

/-- The bytes are one line of the file that they make up with those before and after them. -/
structure IsLineBetween (before bytes after : Bytes) : Prop where
  unbroken : 0x0D ∉ bytes ∧ 0x0A ∉ bytes
  begins : ∀ byte ∈ before.getLast?, byte = 0x0D ∨ byte = 0x0A
  ends : ∀ byte ∈ after.head?, byte = 0x0D ∨ byte = 0x0A
  /-- A carriage return and a line feed after it are one line end, with no line in between. -/
  apart : bytes = [] → before.getLast? = some 0x0D → after.head? ≠ some 0x0A

theorem isUnbroken_decodeLossy {bytes : Bytes} (unbroken : 0x0D ∉ bytes ∧ 0x0A ∉ bytes) :
    IsUnbroken (Utf8.decodeLossy bytes) :=
  ⟨Utf8.not_mem_decodeLossy (by decide) (by decide) unbroken.1,
    Utf8.not_mem_decodeLossy (by decide) (by decide) unbroken.2⟩

/-- The character of a byte that is part of a line end. -/
theorem isBreak_of_mem_map {found : Option UInt8}
    (isBreak : ∀ byte ∈ found, byte = 0x0D ∨ byte = 0x0A) :
    ∀ character ∈ found.map fun byte => Char.ofNat byte.toNat,
      character = '\r' ∨ character = '\n' := by
  intro character member
  rcases Option.map_eq_some_iff.1 member with ⟨byte, listed, rfl⟩
  rcases isBreak byte listed with rfl | rfl
  · exact .inl rfl
  · exact .inr rfl

theorem eq_some_of_map_eq {found : Option UInt8} {byte : UInt8} (positive : 0 < byte)
    (small : byte < 0x80)
    (same : (found.map fun byte => Char.ofNat byte.toNat) = some (Char.ofNat byte.toNat)) :
    found = some byte := by
  rcases Option.map_eq_some_iff.1 same with ⟨other, rfl, equal⟩
  rw [UInt8.toNat_inj.1 (Utf8.toNat_eq_of_ofNat_eq positive small equal)]

/-- The lines of a file around one of its lines do not depend on that line. -/
theorem scannedLines_between {before bytes after : Bytes}
    (isLine : IsLineBetween before bytes after) :
    scannedLines (before ++ (bytes ++ after)) =
      (scannedLines before).dropLast ++
        Utf8.decodeLossy bytes :: (scannedLines after).tail := by
  have small : ∀ byte : UInt8, byte = 0x0D ∨ byte = 0x0A → byte < 0x80 := by
    rintro byte (rfl | rfl) <;> decide
  rcases Utf8.decodeLossy_append_of_ends
    (fun last member => small last (isLine.begins last member)) (bytes ++ after) with
    ⟨cut, last_eq⟩
  rcases Utf8.decodeLossy_append_of_begins
    (fun first member => small first (isLine.ends first member)) bytes with ⟨cut', first_eq⟩
  rw [scannedLines, cut, cut']
  apply lines_universalBreaks_between (isUnbroken_decodeLossy isLine.unbroken)
  · rw [last_eq]
    exact isBreak_of_mem_map isLine.begins
  · rw [first_eq]
    exact isBreak_of_mem_map isLine.ends
  · intro nothing last first
    rw [last_eq] at last
    rw [first_eq] at first
    exact isLine.apart (Utf8.decodeLossy_eq_nil_iff.1 nothing)
      (eq_some_of_map_eq (by decide) (by decide) last)
      (eq_some_of_map_eq (by decide) (by decide) first)

/-- Another line in the place of a line leaves all other lines as they are. -/
theorem scannedLines_set {before bytes bytes' after : Bytes}
    (isLine : IsLineBetween before bytes after) (isLine' : IsLineBetween before bytes' after) :
    scannedLines (before ++ (bytes' ++ after)) =
      (scannedLines (before ++ (bytes ++ after))).set ((scannedLines before).length - 1)
        (Utf8.decodeLossy bytes') := by
  rw [scannedLines_between isLine, scannedLines_between isLine', ← List.length_dropLast,
    List.set_append_right _ _ (Nat.le_refl _), Nat.sub_self, List.set_cons_zero]

theorem length_scannedLines_pos (content : Bytes) : 0 < (scannedLines content).length := by
  rw [List.length_pos_iff, scannedLines, lines, split_eq_splitOn]
  exact List.splitOn_ne_nil _ _

end Text

end Precommit
