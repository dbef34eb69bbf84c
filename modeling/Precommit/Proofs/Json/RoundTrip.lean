import Precommit.Proofs.Json.Reader
import Precommit.Proofs.Text.Decimal

/-!
# Reading what was printed

The text of a document is read as that document, whatever strings it holds and however deep
it is inside others (`parse?_print`). Every string ends at its own closing quote and every
number at what comes after it, so the readers are always left with the text that follows.
-/

namespace Precommit

namespace Json

mutual

/-- What a document says to those who read its text. -/
def value : Json → Value
  | .boolean value => .boolean value
  | .number value => .number value
  | .string text => .string text
  | .array items => .array (itemValues items)
  | .object members => .object (memberValues members)

def itemValues : List Json → List Value
  | [] => []
  | item :: rest => item.value :: itemValues rest

def memberValues : List (String × Json) → List (String × Value)
  | [] => []
  | (key, member) :: rest => (key, member.value) :: memberValues rest

end

theorem itemValues_eq_map (items : List Json) : itemValues items = items.map value := by
  induction items with
  | nil => rw [itemValues, List.map_nil]
  | cons item rest ih => rw [itemValues, ih, List.map_cons]

namespace Reader

section Blanks

theorem skipBlanks_cons {character : Char} (visible : isBlank character = false)
    (rest : List Char) : skipBlanks (character :: rest) = character :: rest := by
  rw [skipBlanks, List.dropWhile_cons_of_neg]
  rw [visible]
  decide

theorem skipBlanks_lineBreak (depth : Nat) (rest : List Char) :
    skipBlanks ((lineBreak depth).toList ++ rest) = skipBlanks rest := by
  rw [skipBlanks, List.dropWhile_append_of_pos]
  · rfl
  · intro character member
    rw [lineBreak, String.toList_append, List.mem_append, String.toList_ofList,
      String.toList_ofList, List.mem_replicate] at member
    rcases member with member | ⟨_, rfl⟩
    · rw [List.mem_singleton.1 member]
      decide
    · decide

end Blanks

section Strings

theorem codeUnit?_control : ∀ code < 0x20, ∀ rest,
    codeUnit? ('0' :: '0' :: hexDigit (code / 16) :: hexDigit (code % 16) :: rest) =
      some code := by
  intro code small rest
  have each : ∀ code < 0x20,
      codeUnit? ['0', '0', hexDigit (code / 16), hexDigit (code % 16)] = some code := by
    decide
  exact each code small

theorem readText?_escaped {character : Char} {text rest : List Char} {used : Nat}
    (read : readEscape? text = some (character, used)) (left : text.drop used = rest) :
    readText? ('\\' :: text) =
      (readText? rest).map fun (read, rest) => (character :: read, rest) := by
  rw [readText?, read]
  simp only [left]

theorem readText?_plain {character : Char} (noQuote : character ≠ '"')
    (noBackslash : character ≠ '\\') (printed : 0x20 ≤ character.toNat) (rest : List Char) :
    readText? (character :: rest) =
      (readText? rest).map fun (read, rest) => (character :: read, rest) := by
  rw [readText?.eq_4 _ _ noQuote noBackslash, if_pos printed]

theorem readText?_escapeCharacter (character : Char) (rest : List Char) :
    readText? (escapeCharacter character ++ rest) =
      (readText? rest).map fun (read, rest) => (character :: read, rest) := by
  unfold escapeCharacter
  split_ifs with quote backslash backspace tab feed page return_ control
  · rw [quote]
    exact readText?_escaped rfl rfl
  · rw [backslash]
    exact readText?_escaped rfl rfl
  · rw [backspace]
    exact readText?_escaped rfl rfl
  · rw [tab]
    exact readText?_escaped rfl rfl
  · rw [feed]
    exact readText?_escaped rfl rfl
  · rw [page]
    exact readText?_escaped rfl rfl
  · rw [return_]
    exact readText?_escaped rfl rfl
  · have read : readEscape? ('u' :: '0' :: '0' :: hexDigit (character.toNat / 16) ::
        hexDigit (character.toNat % 16) :: rest) = some (character, 5) := by
      simp only [readEscape?, codeUnit?_control character.toNat control]
      rw [if_pos (by simp; omega), Char.ofNat_toNat]
    exact readText?_escaped read rfl
  · exact readText?_plain quote backslash (Nat.le_of_not_lt control) rest

/-- No character of a string ends it or changes another one. -/
theorem readText?_quoted (text rest : List Char) :
    readText? (text.flatMap escapeCharacter ++ '"' :: rest) = some (text, rest) := by
  induction text with
  | nil => rw [List.flatMap_nil, List.nil_append, readText?]
  | cons character text ih =>
      rw [List.flatMap_cons, List.append_assoc, readText?_escapeCharacter, ih]
      rfl

end Strings

section Numbers

/-- What may stand after a number. -/
def endsNumber (text : List Char) : Prop :=
  ∀ next ∈ text.head?, next.isDigit = false ∧ next ∉ ['.', 'e', 'E']

variable {rest : List Char}

theorem readDigits?_append {digits : List Char} (nonempty : digits ≠ [])
    (each : ∀ digit ∈ digits, digit.isDigit = true) (ends : endsNumber rest) :
    readDigits? (digits ++ rest) = some (digits, rest) := by
  have stops : rest.takeWhile Char.isDigit = [] ∧ rest.dropWhile Char.isDigit = rest := by
    cases rest with
    | nil => exact ⟨rfl, rfl⟩
    | cons next rest => simp [(ends next rfl).1]
  rw [readDigits?, List.takeWhile_append_of_pos each, List.dropWhile_append_of_pos each, stops.1,
    stops.2, List.append_nil]
  cases digits with
  | nil => exact absurd rfl nonempty
  | cons digit digits => rfl

theorem readWhole?_toDigits (number : Nat) (ends : endsNumber rest) :
    readWhole? (Nat.toDigits 10 number ++ rest) = some (Nat.toDigits 10 number, rest) := by
  rw [readWhole?, readDigits?_append Nat.toDigits_ne_nil Text.isDigit_of_mem_toDigits ends,
    Option.filter_some, if_pos]
  cases number with
  | zero => rfl
  | succ number => simp [Text.head?_toDigits (Nat.succ_pos number)]

/-- After a whole number there is neither a fraction nor an exponent. -/
theorem readFraction?_of_ends (ends : endsNumber rest) :
    readFraction? rest = some ([], rest) ∧ readExponent? rest = some (0, rest) := by
  cases rest with
  | nil => exact ⟨rfl, rfl⟩
  | cons next rest =>
      have other := (ends next rfl).2
      simp only [List.mem_cons, List.not_mem_nil, or_false, not_or] at other
      simp [readFraction?, readExponent?, other]

theorem readNumber?_toString (number : Nat) (ends : endsNumber rest) :
    readNumber? ((toString number).toList ++ rest) = some ((number : ℚ), rest) := by
  have unsigned : readNumber? (Nat.toDigits 10 number ++ rest) =
      readMagnitude? (Nat.toDigits 10 number ++ rest) := by
    unfold readNumber?
    split
    · rename_i signed
      rcases Text.exists_toDigits_eq_cons number with ⟨digit, digits, digits_eq, isDigit⟩
      rw [digits_eq] at signed
      rw [(List.cons.inj signed).1] at isDigit
      cases isDigit
    · rfl
  rcases readFraction?_of_ends ends with ⟨fraction, exponent⟩
  rw [Nat.toString_eq_ofList_toDigits, String.toList_ofList, unsigned]
  simp [readMagnitude?, readWhole?_toDigits number ends, fraction, exponent]

end Numbers

section Documents

theorem toList_quote (text : String) :
    (quote text).toList = '"' :: (text.toList.flatMap escapeCharacter ++ ['"']) := by
  simp [quote]

theorem toList_printAt_array (depth : Nat) {items : List Json} (nonempty : items ≠ []) :
    (printAt depth (.array items)).toList =
      '[' :: ((printItems (depth + 1) items).toList ++ ((lineBreak depth).toList ++ [']'])) := by
  rw [printAt, if_neg (by simpa using nonempty)]
  simp

theorem toList_printAt_object (depth : Nat) {members : List (String × Json)}
    (nonempty : members ≠ []) :
    (printAt depth (.object members)).toList =
      '{' :: ((printMembers (depth + 1) members).toList ++
        ((lineBreak depth).toList ++ ['}'])) := by
  rw [printAt, if_neg (by simpa using nonempty)]
  simp

theorem isBlank_of_isDigit {character : Char} (isDigit : character.isDigit = true) :
    isBlank character = false := by
  cases blank : isBlank character with
  | false => rfl
  | true =>
      simp only [isBlank, Bool.or_eq_true, beq_iff_eq] at blank
      rcases blank with ((rfl | rfl) | rfl) | rfl <;> cases isDigit

/-- The text of a document begins with a character that is neither blank nor a closing bracket. -/
theorem exists_printAt_eq_cons (depth : Nat) (document : Json) :
    ∃ first rest, (printAt depth document).toList = first :: rest ∧ isBlank first = false ∧
      first ≠ ']' := by
  cases document with
  | boolean value =>
      cases value with
      | false => exact ⟨'f', ['a', 'l', 's', 'e'], by simp [printAt], by decide, by decide⟩
      | true => exact ⟨'t', ['r', 'u', 'e'], by simp [printAt], by decide, by decide⟩
  | number value =>
      rcases Text.exists_toDigits_eq_cons value with ⟨digit, digits, digits_eq, isDigit⟩
      refine ⟨digit, digits, ?_, isBlank_of_isDigit isDigit, ?_⟩
      · rw [printAt, Nat.toString_eq_ofList_toDigits, String.toList_ofList, digits_eq]
      · rintro rfl
        cases isDigit
  | string text => exact ⟨'"', _, toList_quote text, by decide, by decide⟩
  | array items =>
      cases items with
      | nil => exact ⟨'[', [']'], by simp [printAt], by decide, by decide⟩
      | cons item items => exact ⟨'[', _, toList_printAt_array depth (by simp), by decide, by decide⟩
  | object members =>
      cases members with
      | nil => exact ⟨'{', ['}'], by simp [printAt], by decide, by decide⟩
      | cons member members =>
          exact ⟨'{', _, toList_printAt_object depth (by simp), by decide, by decide⟩

theorem readValue?_lineBreak (fuel depth : Nat) (text : List Char) :
    readValue? fuel ((lineBreak depth).toList ++ text) = readValue? fuel text := by
  cases fuel with
  | zero => simp only [readValue?]
  | succ fuel => simp only [readValue?, skipBlanks_lineBreak]

theorem readValue?_space (fuel : Nat) (text : List Char) :
    readValue? fuel (' ' :: text) = readValue? fuel text := by
  have skipped : skipBlanks (' ' :: text) = skipBlanks text := rfl
  cases fuel with
  | zero => simp only [readValue?]
  | succ fuel => simp only [readValue?, skipped]

theorem readValue?_number (fuel number : Nat) {rest : List Char} (ends : endsNumber rest) :
    readValue? (fuel + 1) ((toString number).toList ++ rest) = some (.number number, rest) := by
  have read := readNumber?_toString number ends
  rw [Nat.toString_eq_ofList_toDigits, String.toList_ofList] at read ⊢
  rcases Text.exists_toDigits_eq_cons number with ⟨digit, digits, digits_eq, isDigit⟩
  rw [digits_eq, List.cons_append] at read ⊢
  rw [readValue?, skipBlanks_cons (isBlank_of_isDigit isDigit)]
  split
  case h_7 =>
    rw [read]
    rfl
  all_goals
    rename_i other
    rw [(List.cons.inj other).1] at isDigit
    cases isDigit

theorem readValue?_quote (fuel : Nat) (text : String) (rest : List Char) :
    readValue? (fuel + 1) ((quote text).toList ++ rest) = some (.string text, rest) := by
  rw [toList_quote, List.cons_append, List.append_assoc, readValue?,
    skipBlanks_cons (by decide), List.singleton_append]
  simp only [readText?_quoted, Option.map_some, String.ofList_toList]

theorem endsNumber_lineBreak (depth : Nat) (rest : List Char) :
    endsNumber ((lineBreak depth).toList ++ rest) := by
  intro next member
  rw [lineBreak, String.toList_append] at member
  cases Option.some.inj member
  decide

theorem endsNumber_comma (rest : List Char) : endsNumber (',' :: rest) := by
  intro next member
  cases Option.some.inj member
  decide

theorem length_lineBreak_pos (depth : Nat) : 0 < (lineBreak depth).toList.length := by
  rw [lineBreak, String.toList_append]
  exact Nat.succ_pos _

theorem toList_printItems_cons (depth : Nat) (item : Json) (items : List Json) :
    (printItems depth (item :: items)).toList =
      (lineBreak depth).toList ++ ((printAt depth item).toList ++
        (if items = [] then [] else ',' :: (printItems depth items).toList)) := by
  cases items <;> simp [printItems]

theorem toList_printMembers_cons (depth : Nat) (key : String) (member : Json)
    (members : List (String × Json)) :
    (printMembers depth ((key, member) :: members)).toList =
      (lineBreak depth).toList ++ ((quote key).toList ++ (':' :: ' ' ::
        ((printAt depth member).toList ++
          (if members = [] then [] else ',' :: (printMembers depth members).toList)))) := by
  cases members <;> simp [printMembers]

/-- A list of items is not taken for an empty one. -/
theorem skipBlanks_printItems_ne {items : List Json} (nonempty : items ≠ []) (depth : Nat)
    (rest after : List Char) :
    skipBlanks ((printItems depth items).toList ++ rest) ≠ ']' :: after := by
  cases items with
  | nil => exact absurd rfl nonempty
  | cons item items =>
      rcases exists_printAt_eq_cons depth item with ⟨first, text, text_eq, visible, other⟩
      rw [toList_printItems_cons, List.append_assoc, skipBlanks_lineBreak, text_eq,
        List.cons_append, List.cons_append, skipBlanks_cons visible]
      exact fun same => other (List.cons.inj same).1

theorem skipBlanks_printMembers_ne {members : List (String × Json)} (nonempty : members ≠ [])
    (depth : Nat) (rest after : List Char) :
    skipBlanks ((printMembers depth members).toList ++ rest) ≠ '}' :: after := by
  cases members with
  | nil => exact absurd rfl nonempty
  | cons member members =>
      rw [toList_printMembers_cons, List.append_assoc, skipBlanks_lineBreak, toList_quote,
        List.cons_append, List.cons_append, skipBlanks_cons (by decide)]
      exact fun same => absurd (List.cons.inj same).1 (by decide)

/-- With so much fuel everything is read whose text is not longer. -/
structure ReadsBack (fuel : Nat) : Prop where
  value : ∀ document depth rest, (printAt depth document).toList.length ≤ fuel →
    endsNumber rest →
    readValue? fuel ((printAt depth document).toList ++ rest) = some (document.value, rest)
  items : ∀ items depth outer rest, items ≠ [] → (printItems depth items).toList.length ≤ fuel →
    readItems? fuel
        ((printItems depth items).toList ++ ((lineBreak outer).toList ++ ']' :: rest)) =
      some (itemValues items, rest)
  members : ∀ members depth outer rest, members ≠ [] →
    (printMembers depth members).toList.length ≤ fuel →
    readMembers? fuel
        ((printMembers depth members).toList ++ ((lineBreak outer).toList ++ '}' :: rest)) =
      some (memberValues members, rest)

namespace ReadsBack

theorem zero : ReadsBack 0 where
  value document depth rest enough := by
    rcases exists_printAt_eq_cons depth document with ⟨first, text, text_eq, _⟩
    rw [text_eq] at enough
    cases enough
  items items depth outer rest nonempty enough := by
    have positive := length_lineBreak_pos depth
    cases items with
    | nil => exact absurd rfl nonempty
    | cons item items =>
        rw [toList_printItems_cons, List.length_append] at enough
        omega
  members members depth outer rest nonempty enough := by
    have positive := length_lineBreak_pos depth
    cases members with
    | nil => exact absurd rfl nonempty
    | cons member members =>
        rw [toList_printMembers_cons, List.length_append] at enough
        omega

variable {fuel : Nat}

theorem value_succ (shorter : ReadsBack fuel) (document : Json) (depth : Nat) (rest : List Char)
    (enough : (printAt depth document).toList.length ≤ fuel + 1) (ends : endsNumber rest) :
    readValue? (fuel + 1) ((printAt depth document).toList ++ rest) =
      some (document.value, rest) := by
  cases document with
  | boolean value =>
      cases value with
      | false => simp [printAt, readValue?, skipBlanks, isBlank, Json.value]
      | true => simp [printAt, readValue?, skipBlanks, isBlank, Json.value]
  | number value => exact readValue?_number fuel value ends
  | string text => exact readValue?_quote fuel text rest
  | array items =>
      by_cases nothing : items = []
      · rw [nothing]
        simp [printAt, readValue?, skipBlanks, isBlank, Json.value, itemValues]
      · rw [toList_printAt_array depth nothing, List.length_cons, List.length_append] at enough
        have read := shorter.items items (depth + 1) depth rest nothing (by omega)
        rw [toList_printAt_array depth nothing, List.cons_append, List.append_assoc,
          List.append_assoc, List.singleton_append, readValue?, skipBlanks_cons (by decide)]
        simp only
        split
        · rename_i closed
          exact absurd closed (skipBlanks_printItems_ne nothing (depth + 1) _ _)
        · rw [read]
          rfl
  | object members =>
      by_cases nothing : members = []
      · rw [nothing]
        simp [printAt, readValue?, skipBlanks, isBlank, Json.value, memberValues]
      · rw [toList_printAt_object depth nothing, List.length_cons, List.length_append] at enough
        have read := shorter.members members (depth + 1) depth rest nothing (by omega)
        rw [toList_printAt_object depth nothing, List.cons_append, List.append_assoc,
          List.append_assoc, List.singleton_append, readValue?, skipBlanks_cons (by decide)]
        simp only
        split
        · rename_i closed
          exact absurd closed (skipBlanks_printMembers_ne nothing (depth + 1) _ _)
        · rw [read]
          rfl

theorem items_succ (shorter : ReadsBack fuel) (items : List Json) (depth outer : Nat)
    (rest : List Char) (nonempty : items ≠ [])
    (enough : (printItems depth items).toList.length ≤ fuel + 1) :
    readItems? (fuel + 1)
        ((printItems depth items).toList ++ ((lineBreak outer).toList ++ ']' :: rest)) =
      some (itemValues items, rest) := by
  have positive := length_lineBreak_pos depth
  cases items with
  | nil => exact absurd rfl nonempty
  | cons item items =>
      rw [toList_printItems_cons, List.length_append, List.length_append] at enough
      rw [toList_printItems_cons, List.append_assoc, List.append_assoc, readItems?,
        readValue?_lineBreak, itemValues]
      by_cases isLast : items = []
      · rw [if_pos isLast, List.nil_append,
          shorter.value item depth _ (by omega) (endsNumber_lineBreak outer _)]
        simp only [skipBlanks_lineBreak, skipBlanks_cons (show isBlank ']' = false by decide),
          isLast, itemValues]
      · rw [if_neg isLast, List.length_cons] at enough
        rw [if_neg isLast, List.cons_append,
          shorter.value item depth _ (by omega) (endsNumber_comma _)]
        simp only [skipBlanks_cons (show isBlank ',' = false by decide),
          shorter.items items depth outer rest isLast (by omega), Option.map_some]

theorem members_succ (shorter : ReadsBack fuel) (members : List (String × Json))
    (depth outer : Nat) (rest : List Char) (nonempty : members ≠ [])
    (enough : (printMembers depth members).toList.length ≤ fuel + 1) :
    readMembers? (fuel + 1)
        ((printMembers depth members).toList ++ ((lineBreak outer).toList ++ '}' :: rest)) =
      some (memberValues members, rest) := by
  have positive := length_lineBreak_pos depth
  cases members with
  | nil => exact absurd rfl nonempty
  | cons member members =>
      rcases member with ⟨key, member⟩
      rw [toList_printMembers_cons, List.length_append, List.length_append, List.length_cons,
        List.length_cons, List.length_append] at enough
      rw [toList_printMembers_cons, List.append_assoc, List.append_assoc, toList_quote,
        readMembers?, skipBlanks_lineBreak, List.cons_append, skipBlanks_cons (by decide),
        List.append_assoc, List.singleton_append, memberValues]
      simp only [readText?_quoted, List.cons_append, List.append_assoc,
        skipBlanks_cons (show isBlank ':' = false by decide), String.ofList_toList]
      by_cases isLast : members = []
      · rw [if_pos isLast, List.nil_append, readValue?_space,
          shorter.value member depth _ (by omega) (endsNumber_lineBreak outer _)]
        simp only [skipBlanks_lineBreak, skipBlanks_cons (show isBlank '}' = false by decide),
          isLast, memberValues]
      · rw [if_neg isLast, List.length_cons] at enough
        rw [if_neg isLast, List.cons_append, readValue?_space,
          shorter.value member depth _ (by omega) (endsNumber_comma _)]
        simp only [skipBlanks_cons (show isBlank ',' = false by decide),
          shorter.members members depth outer rest isLast (by omega), Option.map_some]

theorem of_fuel (fuel : Nat) : ReadsBack fuel := by
  induction fuel with
  | zero => exact zero
  | succ fuel shorter =>
      exact
        { value := shorter.value_succ
          items := shorter.items_succ
          members := shorter.members_succ }

end ReadsBack

end Documents

end Reader

/-- A printed document is read as what it says. -/
theorem parse?_print (document : Json) : parse? document.print = some document.value := by
  have read := (Reader.ReadsBack.of_fuel (2 * document.print.length + 1)).value document 0 []
    (by rw [← print, String.length_toList]; omega) (fun _ member => by cases member)
  rw [List.append_nil, ← print] at read
  rw [parse?, read]
  rfl

end Json

end Precommit
