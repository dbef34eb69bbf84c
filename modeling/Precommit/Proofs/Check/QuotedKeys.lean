import Mathlib.Data.Bool.AllAny
import Precommit.Proofs.Check.Secrets
import Precommit.Proofs.Text.Stretches

/-!
# Credentials under quoted keys

A credential is found by its name, which the separator has to follow. If the name is a key
between quotes, as in JSON, its closing quote stands between the two, and nothing that is taken
for a secret goes across that quote. So only what is a secret without the key is found
(`hasSecret_quotedKey_iff`), and of the values between quotes these are the long ones
(`findsAt_secretLeakage_quotedKey`).
-/

namespace Precommit

open Unicode

namespace Line

open Builtin

/-- There is something on the line that is taken for a secret, unless the line is harmless. -/
def HasSecret (line : Line) : Prop :=
  line.HasWebhook ∨ line.HasCredential ∨ line.HasEncodedLiteral

/-- A key, a colon and a value between quotes. -/
def keyed (leading key value trailing : List Char) : Line :=
  leading ++ key ++ ": \"".toList ++ value ++ '"' :: trailing

variable {line : Line} {stretch leading key value trailing : List Char}

/-! ### Secrets in parts of a line -/

theorem HasWebhook.mono (has : HasWebhook stretch) (infixed : stretch <:+: line) :
    line.HasWebhook := by
  rcases has with ⟨address, listed, found, within, agrees⟩
  exact ⟨address, listed, found, within.trans infixed, agrees⟩

theorem HasCredential.mono (has : HasCredential stretch) (infixed : stretch <:+: line) :
    line.HasCredential := by
  rcases infixed with ⟨start, rest, rfl⟩
  rcases has with ⟨before, name, blanks, separator, blanks', quote, value, quote', after, rfl,
    pieces⟩
  exact ⟨start ++ before, name, blanks, separator, blanks', quote, value, quote', after ++ rest,
    by simp, pieces⟩

theorem HasEncodedLiteral.mono (has : HasEncodedLiteral stretch) (infixed : stretch <:+: line) :
    line.HasEncodedLiteral := by
  rcases infixed with ⟨start, rest, rfl⟩
  rcases has with ⟨before, quote, value, quote', after, rfl, pieces⟩
  exact ⟨start ++ before, quote, value, quote', after ++ rest, by simp, pieces⟩

theorem HasSecret.mono (has : HasSecret stretch) (infixed : stretch <:+: line) :
    line.HasSecret :=
  has.imp (·.mono infixed) (Or.imp (·.mono infixed) (·.mono infixed))

/-! ### Webhooks -/

theorem webhookAddresses_signs : ∀ address ∈ webhookAddresses,
    '"' ∉ address.toList ∧ ':' ∈ address.toList ∧ '/' ∈ address.toList := by
  decide +kernel

theorem signs_of_hasWebhook (has : line.HasWebhook) : ':' ∈ line ∧ '/' ∈ line := by
  rcases has with ⟨address, listed, stretch, infixed, agrees⟩
  rcases webhookAddresses_signs address listed with ⟨_, colon, slash⟩
  exact ⟨infixed.subset ((agrees.mem_iff (by decide) (by decide)).2 colon),
    infixed.subset ((agrees.mem_iff (by decide) (by decide)).2 slash)⟩

/-- No webhook goes across a quote. -/
theorem hasWebhook_separated_iff {left right : List Char} :
    HasWebhook (left ++ '"' :: right) ↔ HasWebhook left ∨ HasWebhook right := by
  constructor
  · rintro ⟨address, listed, stretch, infixed, agrees⟩
    have unquoted : '"' ∉ stretch := by
      rw [agrees.mem_iff (by decide) (by decide)]
      exact (webhookAddresses_signs address listed).1
    rcases (Text.infix_separated_iff_of_notMem unquoted).1 infixed with onLeft | onRight
    · exact .inl ⟨address, listed, stretch, onLeft, agrees⟩
    · exact .inr ⟨address, listed, stretch, onRight, agrees⟩
  · rintro (onLeft | onRight)
    · exact onLeft.mono (List.infix_append [] left _)
    · exact onRight.mono ⟨left ++ ['"'], [], by simp⟩

/-! ### Values between quotes -/

/--
A value between quotes behind a text without double quotes: what credentials and encoded
literals have in common.
-/
structure IsQuotation (lead : List Char) (quote : Char) (value : List Char) (quote' : Char) :
    Prop where
  isQuote : quote ∈ quotes
  isQuote' : quote' ∈ quotes
  long : 16 ≤ value.length
  unquoted : '"' ∉ value
  colonless : ':' ∉ value
  unquotedLead : '"' ∉ lead
  begins : ∀ first ∈ (lead ++ quote :: value ++ [quote']).head?, first ≠ ':' ∧ first ≠ ' '

-- Over the list of signs, as a quantifier would be decided over all characters there are.
/-- The names of credentials are short and of letters, but for a joint. -/
theorem credentialNames_signs : ∀ known ∈ credentialNames,
    known.toList ≠ [] ∧ known.toList.length < 16 ∧
      ['"', '\'', ':', ' '].all fun sign => sign ∉ known.toList := by
  decide +kernel

theorem signs_of_named (named : ∃ known ∈ credentialNames, AgreeUpToCase key known.toList) :
    key ≠ [] ∧ key.length < 16 ∧ ∀ sign ∈ ['"', '\'', ':', ' '], sign ∉ key := by
  rcases named with ⟨known, listed, agrees⟩
  rcases credentialNames_signs known listed with ⟨nonempty, short, absent⟩
  refine ⟨?_, agrees.length_eq ▸ short, ?_⟩
  · rintro rfl
    exact nonempty (List.eq_nil_of_length_eq_zero agrees.length_eq.symm)
  · intro sign isSign
    have uncased : ∀ sign ∈ ['"', '\'', ':', ' '], sign.toNat < 0x80 ∧ sign.isAlpha = false :=
      List.all_iff_forall_prop.1 (by decide)
    rw [agrees.mem_iff (uncased sign isSign).1 (uncased sign isSign).2]
    exact List.all_iff_forall_prop.1 absent sign isSign

theorem signs_of_tokens (tokens : ∀ character ∈ value, ∃ member, (member.isAlphanum = true ∨
      member ∈ ['+', '/', '=', '_', '-']) ∧ foldCase character = foldCase member) :
    ∀ sign ∈ ['"', '\'', ':'], sign ∉ value := by
  intro sign isSign within
  have noToken : ∀ sign ∈ ['"', '\'', ':'], sign.toNat < 0x80 ∧ sign.isAlpha = false ∧
      ¬(sign.isAlphanum = true ∨ sign ∈ ['+', '/', '=', '_', '-']) :=
    List.all_iff_forall_prop.1 (by decide)
  rcases noToken sign isSign with ⟨small, noLetter, other⟩
  rcases tokens sign within with ⟨member, isToken, same⟩
  rw [(foldCase_eq_iff small noLetter).1 same.symm] at isToken
  exact other isToken

theorem HasCredential.exists_quotation (has : line.HasCredential) :
    ∃ lead quote value quote', IsQuotation lead quote value quote' ∧
      lead ++ quote :: value ++ [quote'] <:+: line ∧
      HasSecret (lead ++ quote :: value ++ [quote']) := by
  rcases has with ⟨before, name, blanks, separator, blanks', quote, value, quote', after, rfl,
    named, areBlank, isSeparator, areBlank', isQuote, long, tokens, isQuote'⟩
  rcases signs_of_named named with ⟨nonempty, _, absent⟩
  have unquoted := signs_of_tokens tokens
  refine ⟨name ++ blanks ++ separator :: blanks', quote, value, quote',
    ⟨isQuote, isQuote', long, unquoted '"' (by decide), unquoted ':' (by decide), ?_, ?_⟩,
    ⟨before, after, by simp⟩, .inr (.inl ⟨[], name, blanks, separator, blanks', quote, value,
      quote', [], by simp, named, areBlank, isSeparator, areBlank', isQuote, long, tokens,
      isQuote'⟩)⟩
  · have noBlank : ¬isBlank '"' = true := by decide
    have noSeparator : '"' ≠ separator := by
      rintro rfl
      exact absurd isSeparator (by decide)
    simp only [List.mem_append, List.mem_cons, not_or]
    exact ⟨⟨absent '"' (by decide), fun within => noBlank (areBlank _ within)⟩, noSeparator,
      fun within => noBlank (areBlank' _ within)⟩
  · rcases List.exists_cons_of_ne_nil nonempty with ⟨first, rest, rfl⟩
    rintro _ ⟨⟩
    constructor
    · rintro rfl
      exact absent ':' (by decide) List.mem_cons_self
    · rintro rfl
      exact absent ' ' (by decide) List.mem_cons_self

theorem HasEncodedLiteral.exists_quotation (has : line.HasEncodedLiteral) :
    ∃ lead quote value quote', IsQuotation lead quote value quote' ∧
      lead ++ quote :: value ++ [quote'] <:+: line ∧
      HasSecret (lead ++ quote :: value ++ [quote']) := by
  rcases has with ⟨before, quote, value, quote', after, rfl, isQuote, long, members, isQuote'⟩
  have unquoted : ∀ sign ∈ ['"', '\'', ':'], sign ∉ value := by
    apply signs_of_tokens
    intro character within
    exact ⟨character, (members character within).imp_right (List.mem_append_left ['_', '-']), rfl⟩
  refine ⟨[], quote, value, quote',
    ⟨isQuote, isQuote', by omega, unquoted '"' (by decide), unquoted ':' (by decide), by simp, ?_⟩,
    ⟨before, after, by simp⟩,
    .inr (.inr ⟨[], quote, value, quote', [], by simp, isQuote, long, members, isQuote'⟩)⟩
  rintro _ ⟨⟩
  have noQuote : ':' ∉ quotes ∧ ' ' ∉ quotes := by decide
  exact ⟨fun same => noQuote.1 (same ▸ isQuote), fun same => noQuote.2 (same ▸ isQuote)⟩

/-- What is taken for a secret is a webhook or a quotation. -/
theorem HasSecret.webhook_or_quotation (has : line.HasSecret) :
    line.HasWebhook ∨ ∃ lead quote value quote', IsQuotation lead quote value quote' ∧
      lead ++ quote :: value ++ [quote'] <:+: line ∧
      HasSecret (lead ++ quote :: value ++ [quote']) := by
  rcases has with webhook | credential | literal
  · exact .inl webhook
  · exact .inr credential.exists_quotation
  · exact .inr literal.exists_quotation

/-- A double quote of a quotation stands right before the value or right behind it. -/
theorem IsQuotation.at_quote {lead value' first second : List Char} {quote quote' : Char}
    (quotation : IsQuotation lead quote value' quote')
    (split : lead ++ quote :: value' ++ [quote'] = first ++ '"' :: second) :
    value' <+: second ∨ value' <:+ first := by
  rcases List.eq_nil_or_concat' second with rfl | ⟨rest, last, rfl⟩
  · right
    have same : lead ++ quote :: value' = first := (List.append_inj' split rfl).1
    rw [← same]
    exact List.suffix_append_of_suffix (List.suffix_cons quote value')
  · left
    rw [← List.cons_append, ← List.append_assoc] at split
    have same : lead ++ quote :: value' = first ++ '"' :: rest := (List.append_inj' split rfl).1
    rcases (List.append_cons_inj_of_notMem quotation.unquotedLead quotation.unquoted).1 same with
      ⟨_, _, rfl⟩
    exact List.prefix_append value' [last]

/-- No quotation goes across the quote behind a key. -/
theorem IsQuotation.infix_quotedKey {lead value' : List Char} {quote quote' : Char}
    (quotation : IsQuotation lead quote value' quote') (short : key.length < 16)
    (unquoted : ∀ quote ∈ quotes, quote ∉ key)
    (infixed : lead ++ quote :: value' ++ [quote'] <:+:
      keyed leading ('"' :: key ++ ['"']) value trailing) :
    lead ++ quote :: value' ++ [quote'] <:+: leading ++ ['"'] ∨
      lead ++ quote :: value' ++ [quote'] <:+: '"' :: value ++ '"' :: trailing := by
  have pieces : keyed leading ('"' :: key ++ ['"']) value trailing =
      (leading ++ ['"'] ++ key) ++ '"' :: ':' :: ' ' :: ('"' :: value ++ '"' :: trailing) := by
    simp [keyed]
  rw [pieces, Text.infix_separated_iff] at infixed
  rcases infixed with onLeft | onRight | ⟨first, second, split, ends, begins⟩
  · exact .inl ((Text.infix_append_iff_of_ends (unquoted quote' quotation.isQuote')).1 onLeft)
  · right
    have begins := quotation.begins
    rwa [Text.infix_cons_iff_of_begins fun first head => (begins first head).1,
      Text.infix_cons_iff_of_begins fun first head => (begins first head).2] at onRight
  · exfalso
    rcases quotation.at_quote split with following | preceding
    · rcases List.prefix_cons_iff.1 (following.trans begins) with rfl | ⟨rest, rfl, _⟩
      · exact absurd quotation.long (by decide)
      · exact quotation.colonless List.mem_cons_self
    · have long := quotation.long
      have onKey : '"' :: key <:+ leading ++ ['"'] ++ key := ⟨leading, by simp⟩
      have within : '"' :: key <:+ value' :=
        List.suffix_of_suffix_length_le onKey (preceding.trans ends)
          (by rw [List.length_cons]; omega)
      exact quotation.unquoted (within.subset List.mem_cons_self)

/-! ### The line with the key between quotes -/

/-- What has no quotes is found in one of the pieces around the quotes. -/
theorem infix_quotedKey_iff (unquoted : '"' ∉ stretch) :
    stretch <:+: keyed leading ('"' :: key ++ ['"']) value trailing ↔
      stretch <:+: leading ∨ stretch <:+: key ∨ stretch <:+: ": ".toList ∨ stretch <:+: value ∨
        stretch <:+: trailing := by
  have pieces : keyed leading ('"' :: key ++ ['"']) value trailing =
      leading ++ '"' :: (key ++ '"' :: (": ".toList ++ '"' :: (value ++ '"' :: trailing))) := by
    simp [keyed]
  rw [pieces]
  simp only [Text.infix_separated_iff_of_notMem unquoted]

theorem unquoted_harmlessMarks : ∀ mark ∈ harmlessMarks, '"' ∉ mark.toList := by
  decide +kernel

/-- Quotes around the key bring about no mark. -/
theorem not_hasHarmlessMark_quotedKey
    (unmarked : ¬(keyed leading key value trailing).HasHarmlessMark) :
    ¬(keyed leading ('"' :: key ++ ['"']) value trailing).HasHarmlessMark := by
  rintro ⟨mark, listed, infixed⟩
  apply unmarked
  refine ⟨mark, listed, ?_⟩
  have pieces : keyed leading key value trailing =
      (leading ++ (key ++ ": ".toList)) ++ '"' :: (value ++ '"' :: trailing) := by
    simp [keyed]
  have unquoted := unquoted_harmlessMarks mark listed
  rw [pieces, Text.infix_separated_iff_of_notMem unquoted,
    Text.infix_separated_iff_of_notMem unquoted]
  rcases (infix_quotedKey_iff unquoted).1 infixed with
    before | within | between | inValue | behind
  · exact .inl (List.infix_append_of_infix_left before)
  · exact .inl (List.infix_append_of_infix_right (List.infix_append_of_infix_left within))
  · exact .inl (List.infix_append_of_infix_right (List.infix_append_of_infix_right between))
  · exact .inr (.inl inValue)
  · exact .inr (.inr behind)

theorem hasWebhook_quotedKey
    (named : ∃ known ∈ credentialNames, AgreeUpToCase key known.toList)
    (has : (keyed leading ('"' :: key ++ ['"']) value trailing).HasWebhook) :
    HasWebhook leading ∨ HasWebhook ('"' :: value ++ '"' :: trailing) := by
  have pieces : keyed leading ('"' :: key ++ ['"']) value trailing =
      leading ++ '"' :: (key ++ '"' :: (": ".toList ++ '"' :: (value ++ '"' :: trailing))) := by
    simp [keyed]
  rw [pieces, hasWebhook_separated_iff, hasWebhook_separated_iff,
    hasWebhook_separated_iff] at has
  rcases has with before | within | between | behind
  · exact .inl before
  · exact absurd (signs_of_hasWebhook within).1 ((signs_of_named named).2.2 ':' (by decide))
  · exact absurd (signs_of_hasWebhook between).2 (by decide)
  · exact .inr (behind.mono (List.infix_cons (List.infix_refl _)))

/-- With its name between quotes a value is as good as a value without a name. -/
theorem hasSecret_quotedKey_iff
    (named : ∃ known ∈ credentialNames, AgreeUpToCase key known.toList) :
    (keyed leading ('"' :: key ++ ['"']) value trailing).HasSecret ↔
      HasSecret (leading ++ ['"']) ∨ HasSecret ('"' :: value ++ '"' :: trailing) := by
  have onLeft : leading ++ ['"'] <:+: keyed leading ('"' :: key ++ ['"']) value trailing :=
    ⟨[], key ++ '"' :: ": \"".toList ++ value ++ '"' :: trailing, by simp [keyed]⟩
  have onRight : '"' :: value ++ '"' :: trailing <:+:
      keyed leading ('"' :: key ++ ['"']) value trailing :=
    ⟨leading ++ '"' :: key ++ "\": ".toList, [], by simp [keyed]⟩
  rcases signs_of_named named with ⟨_, short, absent⟩
  have unquoted : ∀ quote ∈ quotes, quote ∉ key := by
    intro quote isQuote
    exact absent quote (List.mem_append_left [':', ' '] isQuote)
  constructor
  · intro has
    rcases has.webhook_or_quotation with
      webhook | ⟨lead, quote, value', quote', quotation, infixed, secret⟩
    · rcases hasWebhook_quotedKey named webhook with before | behind
      · exact .inl (.inl (before.mono (List.infix_append [] leading ['"'])))
      · exact .inr (.inl behind)
    · exact (quotation.infix_quotedKey short unquoted infixed).imp secret.mono secret.mono
  · rintro (before | behind)
    · exact before.mono onLeft
    · exact behind.mono onRight

/-! ### Around a value, no further quotes -/

/-- A line with one quote does not have two. -/
theorem not_two_quotes {text rest lead between after : List Char} {quote quote' : Char}
    (plain : ∀ quote ∈ quotes, quote ∉ text) (plain' : ∀ quote ∈ quotes, quote ∉ rest)
    (isQuote : quote ∈ quotes) (isQuote' : quote' ∈ quotes) :
    text ++ '"' :: rest ≠ lead ++ quote :: between ++ quote' :: after := by
  intro split
  rcases (List.append_cons_inj_of_notMem (plain quote' isQuote') (plain' quote' isQuote')).1 split
    with ⟨rfl, _⟩
  exact plain quote isQuote (by simp)

theorem not_hasSecret_before (plain : ∀ quote ∈ quotes, quote ∉ leading)
    (noWebhook : ¬HasWebhook leading) : ¬HasSecret (leading ++ ['"']) := by
  intro has
  rcases has.webhook_or_quotation with
    webhook | ⟨lead, quote, value, quote', quotation, ⟨before, after, split⟩, _⟩
  · rcases hasWebhook_separated_iff.1 webhook with before | behind
    · exact noWebhook before
    · exact absurd (signs_of_hasWebhook behind).1 List.not_mem_nil
  · have two : leading ++ ['"'] = (before ++ lead) ++ quote :: value ++ quote' :: after := by
      rw [← split]
      simp
    exact not_two_quotes plain (fun _ _ => List.not_mem_nil) quotation.isQuote
      quotation.isQuote' two

/-- The only quotes of a line are the ones that a value is found between. -/
theorem between_only_quotes {lead between after : List Char} {quote quote' : Char}
    (plain : ∀ quote ∈ quotes, quote ∉ value) (plain' : ∀ quote ∈ quotes, quote ∉ trailing)
    (isQuote : quote ∈ quotes) (isQuote' : quote' ∈ quotes)
    (split : '"' :: value ++ '"' :: trailing = lead ++ quote :: between ++ quote' :: after) :
    lead = [] ∧ between = value := by
  cases lead with
  | nil =>
      rw [List.nil_append, List.cons_append, List.cons_append, List.cons.injEq,
        List.append_cons_inj_of_notMem (plain quote' isQuote') (plain' quote' isQuote')] at split
      exact ⟨rfl, split.2.1.symm⟩
  | cons first lead =>
      rw [List.cons_append, List.cons_append, List.cons_append, List.cons.injEq] at split
      exact absurd split.2 (not_two_quotes plain plain' isQuote isQuote')

/-- A value between the only quotes is taken for a secret if it is an encoded literal. -/
theorem hasSecret_value_iff
    (tokens : ∀ character ∈ value,
      character.isAlphanum = true ∨ character ∈ ['+', '/', '=', '_', '-'])
    (plain : ∀ quote ∈ quotes, quote ∉ trailing) (noWebhook : ¬HasWebhook trailing) :
    HasSecret ('"' :: value ++ '"' :: trailing) ↔
      40 ≤ value.length ∧
        ∀ character ∈ value, character.isAlphanum = true ∨ character ∈ ['+', '/', '='] := by
  have absent := signs_of_tokens fun character within => ⟨character, tokens character within, rfl⟩
  have plainValue : ∀ quote ∈ quotes, quote ∉ value := by
    intro quote isQuote
    exact absent quote (List.mem_append_left [':'] isQuote)
  constructor
  · rintro (webhook | ⟨before, name, blanks, separator, blanks', quote, between, quote', after,
      split, _, _, _, _, isQuote, _, _, isQuote'⟩ | ⟨before, quote, between, quote', after, split,
      isQuote, long, members, isQuote'⟩)
    · exfalso
      rw [← List.nil_append ('"' :: value ++ _), List.cons_append, hasWebhook_separated_iff,
        hasWebhook_separated_iff] at webhook
      rcases webhook with none | inValue | behind
      · exact absurd (signs_of_hasWebhook none).1 List.not_mem_nil
      · exact absent ':' (by decide) (signs_of_hasWebhook inValue).1
      · exact noWebhook behind
    · have nothing := (between_only_quotes plainValue plain isQuote isQuote' split).1
      simp at nothing
    · obtain ⟨_, rfl⟩ := between_only_quotes plainValue plain isQuote isQuote' split
      exact ⟨long, members⟩
  · rintro ⟨long, members⟩
    exact .inr (.inr ⟨[], '"', value, '"', trailing, rfl, by decide, long, members, by decide⟩)

end Line

namespace Check

variable {limit : Option Nat} {policy : Policy} {auditor : Auditor} {path : String}
  {leading key value trailing : List Char}

open Builtin Line

theorem findsAt_secretLeakage_iff (reads : auditor.rules.Reads limit policy) (before : List Line)
    (line : Line) (after : List Line) :
    secretLeakage.FindsAt auditor path (before ++ line :: after) (before.length + 1) ↔
      secretLeakage.appliesTo auditor.classifier path = true ∧
        ¬line.HasHarmlessMark ∧ line.HasSecret := by
  rw [findsAt_iff, considers, reports_secretLeakage reads, HasSecret,
    ← reads.isMatch_secretFalsePositive_iff, ← isMatch_webhookPattern_iff,
    ← isMatch_credentialPattern_iff, ← isMatch_literalPattern_iff]
  cases auditor.rules.secretFalsePositive.isMatch line <;>
    cases webhookPattern.isMatch line <;> cases credentialPattern.isMatch line <;>
      cases literalPattern.isMatch line <;> simp

/--
If a line with the name of a credential, a colon and a value between quotes is reported, then
with the name between quotes too it is reported exactly if there is a secret before the name or
from the value on. It is, if the value is an encoded literal, and if there are no other quotes and
no webhooks, then for no other value.
-/
theorem findsAt_secretLeakage_quotedKey (read : Auditor.ofPolicy policy limit = .ok auditor)
    (named : ∃ known ∈ credentialNames, AgreeUpToCase key known.toList)
    (tokens : ∀ character ∈ value,
      character.isAlphanum = true ∨ character ∈ ['+', '/', '=', '_', '-'])
    (before after : List Line)
    (reported : secretLeakage.FindsAt auditor path
      (before ++ keyed leading key value trailing :: after) (before.length + 1)) :
    let foundQuoted := secretLeakage.FindsAt auditor path
      (before ++ keyed leading ('"' :: key ++ ['"']) value trailing :: after) (before.length + 1)
    let isEncoded := 40 ≤ value.length ∧
      ∀ character ∈ value, character.isAlphanum = true ∨ character ∈ ['+', '/', '=']
    (foundQuoted ↔
      HasSecret (leading ++ ['"']) ∨ HasSecret ('"' :: value ++ '"' :: trailing)) ∧
    (isEncoded → foundQuoted) ∧
    ((∀ quote ∈ quotes, quote ∉ leading ∧ quote ∉ trailing) →
      ¬HasWebhook leading → ¬HasWebhook trailing → (foundQuoted ↔ isEncoded)) := by
  intro foundQuoted isEncoded
  have reads := (Auditor.ofPolicy_eq_ok_iff.1 read).1
  rcases (findsAt_secretLeakage_iff reads before _ after).1 reported with ⟨applies, unmarked, _⟩
  have found_iff : foundQuoted ↔
      HasSecret (leading ++ ['"']) ∨ HasSecret ('"' :: value ++ '"' :: trailing) := by
    simp only [foundQuoted]
    rw [findsAt_secretLeakage_iff reads, hasSecret_quotedKey_iff named, and_iff_right applies,
      and_iff_right (not_hasHarmlessMark_quotedKey unmarked)]
  refine ⟨found_iff, ?_, ?_⟩
  · rintro ⟨long, members⟩
    exact found_iff.2 (.inr (.inr (.inr
      ⟨[], '"', value, '"', trailing, rfl, by decide, long, members, by decide⟩)))
  · intro plain noWebhook noWebhook'
    rw [found_iff, hasSecret_value_iff tokens (fun quote isQuote => (plain quote isQuote).2)
      noWebhook']
    exact or_iff_right
      (not_hasSecret_before (fun quote isQuote => (plain quote isQuote).1) noWebhook)

theorem exists_secretLeakage_appliesTo_builtin :
    ∃ auditor, Auditor.ofPolicy {} = .ok auditor ∧
      secretLeakage.appliesTo auditor.classifier "a.json" = true := by
  rcases Auditor.exists_ofPolicy_builtin with ⟨auditor, read⟩
  obtain rfl := Auditor.eq_assembled read
  exact ⟨.assembled {}, read, by decide +kernel⟩

/-- A name in mixed case is followed by an encoded literal. -/
theorem findsAt_secretLeakage_quotedKey_encoded :
    ∃ auditor, Auditor.ofPolicy {} = .ok auditor ∧
      let value := "0123456789+/ABCDEFGHIJKLMNOPQRSTUVWXYZab=="
      secretLeakage.FindsAt auditor "a.json"
        [['{'], ("  Api-KEY: \"" ++ value ++ "\",").toList] 2 ∧
      secretLeakage.FindsAt auditor "a.json"
        [['{'], ("  \"Api-KEY\": \"" ++ value ++ "\",").toList] 2 := by
  rcases exists_secretLeakage_appliesTo_builtin with ⟨auditor, read, applies⟩
  have reads := (Auditor.ofPolicy_eq_ok_iff.1 read).1
  let value := "0123456789+/ABCDEFGHIJKLMNOPQRSTUVWXYZab==".toList
  have unmarked : ¬(keyed "  ".toList "Api-KEY".toList value [',']).HasHarmlessMark := by
    unfold HasHarmlessMark
    decide +kernel
  have credential : (keyed "  ".toList "Api-KEY".toList value [',']).HasCredential := by
    rw [← isMatch_credentialPattern_iff]
    decide +kernel
  have reported := (findsAt_secretLeakage_iff reads [['{']] _ []).2
    ⟨applies, unmarked, .inr (.inl credential)⟩
  have agrees : AgreeUpToCase "Api-KEY".toList "api-key".toList := by
    unfold AgreeUpToCase
    decide +kernel
  have encoded : ∀ character ∈ value,
      character.isAlphanum = true ∨ character ∈ ['+', '/', '='] :=
    List.all_iff_forall_prop.1 (by decide +kernel)
  have tokens : ∀ character ∈ value,
      character.isAlphanum = true ∨ character ∈ ['+', '/', '=', '_', '-'] :=
    fun character within => (encoded character within).imp_right (List.mem_append_left ['_', '-'])
  have quoted := findsAt_secretLeakage_quotedKey read ⟨"api-key", by decide, agrees⟩ tokens
    [['{']] [] reported
  exact ⟨auditor, read, reported, quoted.2.1 ⟨by decide, encoded⟩⟩

/-- A key between quotes hides a credential of sixteen characters. -/
theorem not_findsAt_secretLeakage_quotedKey :
    ∃ auditor, Auditor.ofPolicy {} = .ok auditor ∧
      secretLeakage.FindsAt auditor "a.json" ["api_key: \"0123456789abcdef\"".toList] 1 ∧
      ¬secretLeakage.FindsAt auditor "a.json"
        ["\"api_key\": \"0123456789abcdef\"".toList] 1 := by
  rcases exists_secretLeakage_appliesTo_builtin with ⟨auditor, read, applies⟩
  have reads := (Auditor.ofPolicy_eq_ok_iff.1 read).1
  refine ⟨auditor, read, ?_, ?_⟩
  · have unmarked : ¬Line.HasHarmlessMark "api_key: \"0123456789abcdef\"".toList := by
      unfold HasHarmlessMark
      decide +kernel
    have credential : Line.HasCredential "api_key: \"0123456789abcdef\"".toList := by
      rw [← isMatch_credentialPattern_iff]
      decide +kernel
    exact (findsAt_secretLeakage_iff reads [] _ []).2 ⟨applies, unmarked, .inr (.inl credential)⟩
  · intro found
    have secret := ((findsAt_secretLeakage_iff reads [] _ []).1 found).2.2
    rw [HasSecret, ← isMatch_webhookPattern_iff, ← isMatch_credentialPattern_iff,
      ← isMatch_literalPattern_iff] at secret
    revert secret
    decide +kernel

end Check

end Precommit
