import Precommit.Proofs.Pattern.LiteralText
import Precommit.Proofs.Pattern.PlanRoom

/-!
# Patterns that are too large

A piece that takes more than the limit by itself cannot be added anywhere, and neither
can anything that it is a part of. So a pattern with a text in it that is too long
for the limit does not fit, whatever else it consists of.
-/

namespace Precommit

namespace Pattern

namespace Piece

/-- The piece cannot be added, however much room is left. -/
def Overflows (piece : Piece) : Prop :=
  ∀ tally, piece.count? tally = none

theorem overflows_plain {limit states : Nat} (large : limit < 32 * states) (transitions : Nat) :
    (plain limit states transitions).Overflows := by
  intro tally
  apply if_neg
  simp only [Tally.size, Tally.stateSize]
  omega

theorem overflows_all {pieces : List Piece} {piece : Piece} (overflows : piece.Overflows)
    (member : piece ∈ pieces) : (all pieces).Overflows := by
  induction pieces with
  | nil => cases member
  | cons first rest ih =>
      intro tally
      simp only [all, List.foldlM_cons]
      cases counted : first.count? tally with
      | none => rfl
      | some after =>
          rcases List.mem_cons.1 member with rfl | member
          · rw [overflows tally] at counted
            cases counted
          · exact ih member after

end Piece

namespace Plan

variable {limit : Nat}

/-- A plan does not fit if it takes more than the limit where texts are read forwards. -/
theorem not_fits_of_overflows {plan : Plan} (single : plan.isDictionary = false)
    (overflows : (plan.piece ⟨limit, true, false⟩).Overflows) : plan.fits limit = false := by
  have branch : ((Plan.capture 0 plan).piece ⟨limit, true, false⟩).Overflows := by
    simp only [piece, if_true]
    exact Piece.overflows_all overflows (by simp)
  have forward : (automaton ⟨limit, true, false⟩ [plan]).Overflows := by
    simp only [automaton, List.map_cons, List.map_nil, if_true]
    apply Piece.overflows_all (Piece.overflows_all _ List.mem_cons_self)
    · exact List.mem_cons_of_mem _ List.mem_cons_self
    · exact Piece.overflows_all branch List.mem_cons_self
  simp [fits, single, allFit, forward {}]

theorem overflows_text {characters : List Char}
    (large : limit < 32 * (Utf8.encode characters).length) :
    ((text characters).piece ⟨limit, true, false⟩).Overflows := by
  simp only [piece]
  exact Piece.overflows_plain large 0

theorem exists_text_mem_prepend (characters : List Char) (rest : List Plan) :
    ∃ joined, characters <:+: joined ∧ .text joined ∈ prepend (.text characters) rest := by
  unfold prepend
  split
  · rename_i left right rest same
    cases same
    exact ⟨characters ++ right, (List.prefix_append _ _).isInfix, List.mem_cons_self⟩
  · exact ⟨characters, List.infix_rfl, List.mem_cons_self⟩

theorem exists_text_mem_prepend_of_mem {characters : List Char} {rest : List Plan}
    (member : .text characters ∈ rest) (item : Plan) :
    ∃ joined, characters <:+: joined ∧ .text joined ∈ prepend item rest := by
  unfold prepend
  split
  · rename_i left right rest
    rcases List.mem_cons.1 member with same | member
    · cases same
      exact ⟨left ++ characters, (List.suffix_append _ _).isInfix, List.mem_cons_self⟩
    · exact ⟨characters, List.infix_rfl, List.mem_cons_of_mem _ member⟩
  · exact ⟨characters, List.infix_rfl, List.mem_cons_of_mem _ member⟩

/-- A text among the items of a sequence is still there when texts are joined. -/
theorem exists_text_of_mem {characters : List Char} {items : List Plan}
    (member : .text characters ∈ items) :
    ∃ joined, characters <:+: joined ∧ .text joined ∈ items.foldr prepend [] := by
  induction items with
  | nil => cases member
  | cons item rest ih =>
      rw [List.foldr_cons]
      rcases List.mem_cons.1 member with rfl | member
      · exact exists_text_mem_prepend characters _
      · rcases ih member with ⟨joined, inside, member⟩
        rcases exists_text_mem_prepend_of_mem member item with ⟨joined', inside', member⟩
        exact ⟨joined', inside.trans inside', member⟩

theorem length_encode_mono {characters joined : List Char} (inside : characters <:+: joined) :
    (Utf8.encode characters).length ≤ (Utf8.encode joined).length := by
  rcases inside with ⟨before, after, rfl⟩
  simp only [Utf8.encode, List.flatMap_append, List.length_append]
  omega

/-- A sequence does not fit if a text in it is too long. -/
theorem not_fits_sequenceAll {characters : List Char} {plans : List Plan}
    (member : .text characters ∈ plans)
    (large : limit < 32 * (Utf8.encode characters).length) :
    (sequenceAll plans).fits limit = false := by
  have listed : .text characters ∈ plans.flatMap items :=
    List.mem_flatMap.2 ⟨_, member, List.mem_singleton_self _⟩
  rcases exists_text_of_mem listed with ⟨joined, inside, member⟩
  have overflows := overflows_text
    (Nat.lt_of_lt_of_le large (Nat.mul_le_mul_left 32 (length_encode_mono inside)))
  unfold sequenceAll
  split
  · rename_i found
    rw [found] at member
    cases member
  · rename_i plan found
    rw [found] at member
    rcases List.mem_singleton.1 member with rfl
    exact not_fits_of_overflows rfl overflows
  · apply not_fits_of_overflows rfl
    simp only [piece, pieces_eq, List.reverse_nil, List.nil_append]
    exact Piece.overflows_all overflows (List.mem_map_of_mem member)

end Plan

namespace Expression

theorem plans_eq (done : List Plan) (expressions : List Expression) :
    plans done expressions = done.reverse ++ expressions.map plan := by
  induction expressions generalizing done with
  | nil => simp [plans]
  | cons expression rest ih => simp [plans, ih]

theorem plan_literal (character : Char) : (literal character).plan = .text [character] := by
  simp [literal, plan, CharSet.single, CharSet.ranges, Plan.ofRanges, Char.ofNat_toNat]

theorem items_plan_literal (text : List Char) :
    ((text.map literal).map plan).flatMap Plan.items =
      text.map fun character => .text [character] := by
  induction text with
  | nil => rfl
  | cons character rest ih =>
      rw [List.map_cons, List.map_cons, List.flatMap_cons, ih, plan_literal]
      rfl

theorem foldr_prepend_singletons (character : Char) (text : List Char) :
    ((character :: text).map fun character => Plan.text [character]).foldr Plan.prepend [] =
      [.text (character :: text)] := by
  induction text generalizing character with
  | nil => rfl
  | cons second rest ih =>
      rw [List.map_cons, List.foldr_cons, ih]
      rfl

theorem plan_literalText {text : List Char} (nonempty : text ≠ []) :
    (literalText text).plan = .text text := by
  cases text with
  | nil => exact absurd rfl nonempty
  | cons character rest =>
      cases rest with
      | nil => exact plan_literal character
      | cons second rest =>
          have planned : (literalText (character :: second :: rest)).plan =
              .sequenceAll (((character :: second :: rest).map literal).map plan) := by
            simp only [literalText, List.map_cons, ofItems, plan, plans_eq, List.reverse_nil,
              List.nil_append]
          rw [planned, Plan.sequenceAll, items_plan_literal, foldr_prepend_singletons]

end Expression

end Pattern

end Precommit
