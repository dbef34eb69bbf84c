import Precommit.Pattern.Compile
import Precommit.Proofs.Pattern.Room

/-!
# Room for plans

The room of a plan is added up along its parts. A plan whose room in both directions
is within a limit fits the limit, which can be decided without building the tables for
shared states.
-/

namespace Precommit

namespace Pattern

namespace Plan

/-- The room of a choice between texts. -/
def textsRoom (layout : Layout) (texts : List (List Char)) : Nat :=
  let encodings := texts.map fun text =>
    if layout.isForward then Utf8.encode text else (Utf8.encode text.reverse).reverse
  let length := encodings.foldl (fun length encoding => max length encoding.length) 0
  let tree := Piece.treeSize length encodings
  32 * (tree.1 + 1) + tree.2

mutual

/-- The room that the plan takes in an automaton. -/
def room (layout : Layout) : Plan → Nat
  | .empty => 32
  | .text characters => 32 * (Utf8.encode characters).length
  | .set ranges => Piece.setRoom layout ranges
  | .assertion _ => 32
  | .repetition least most _ body => Piece.repetitionRoom least most (body.room layout)
  | .capture _ body => body.room layout + 64
  | .sequence items => (rooms layout items).sum
  | .alternative branches =>
      match branches.mapM text? with
      | some texts => textsRoom layout texts
      | none => 64 + 4 * branches.length + (rooms layout branches).sum

/-- The rooms of the plans. -/
def rooms (layout : Layout) : List Plan → List Nat
  | [] => []
  | plan :: rest => plan.room layout :: rooms layout rest

end

theorem keeps_texts (layout : Layout) (texts : List (List Char)) :
    (Piece.texts layout texts).Keeps layout.limit (textsRoom layout texts) := by
  simp only [Piece.texts, textsRoom]
  exact Piece.keeps_plain _ _

theorem pieces_eq (layout : Layout) (done : List Piece) (plans : List Plan) :
    pieces layout done plans = done.reverse ++ plans.map (piece layout) := by
  induction plans generalizing done with
  | nil => simp [pieces]
  | cons plan rest ih => simp [pieces, ih]

mutual

theorem keeps_piece (layout : Layout) (plan : Plan) :
    (plan.piece layout).Keeps layout.limit (plan.room layout) := by
  match plan with
  | .empty =>
      simp only [piece, room]
      exact Piece.keeps_fork 0
  | .text characters =>
      simp only [piece, room]
      exact Piece.keeps_plain _ 0
  | .set ranges =>
      simp only [piece, room]
      exact Piece.keeps_set layout ranges
  | .assertion _ =>
      simp only [piece, room]
      exact Piece.keeps_plain 1 0
  | .repetition least most _ body =>
      simp only [piece, room]
      exact Piece.keeps_repetition least most _ (keeps_piece layout body)
  | .capture _ body =>
      have keeps := keeps_piece layout body
      have save : (Piece.plain layout.limit 1 0).Keeps layout.limit 32 := Piece.keeps_plain 1 0
      simp only [piece, room]
      split
      · apply (Piece.keeps_all (.cons save (.cons keeps (.cons save .nil)))).mono
        simp only [List.sum_cons, List.sum_nil]
        omega
      · exact keeps.mono (by omega)
  | .sequence items =>
      simp only [piece, room]
      exact Piece.keeps_all (keeps_pieces layout items)
  | .alternative branches =>
      cases read : branches.mapM text? with
      | some texts =>
          simp only [piece, room, read]
          exact keeps_texts layout texts
      | none =>
          have keeps := Piece.keeps_either (keeps_pieces layout branches)
          have length : (pieces layout [] branches).length = branches.length := by
            simp [pieces_eq]
          rw [length] at keeps
          simp only [piece, room, read]
          exact keeps

theorem keeps_pieces (layout : Layout) (plans : List Plan) :
    List.Forall₂ (fun piece room => piece.Keeps layout.limit room) (pieces layout [] plans)
      (rooms layout plans) := by
  match plans with
  | [] => exact .nil
  | plan :: rest =>
      have tail := keeps_pieces layout rest
      rw [pieces_eq] at tail
      rw [pieces_eq]
      exact .cons (keeps_piece layout plan) tail

end

/-- What is added to a single plan to make an automaton takes this room at most. -/
def frameRoom : Nat := 276

theorem keeps_automaton (layout : Layout) (plan : Plan) :
    (automaton layout [plan]).Keeps layout.limit
      (frameRoom + (if layout.isForward then plan else plan.mirror).room layout) := by
  unfold automaton
  simp only [List.map_cons, List.map_nil]
  generalize (if layout.isForward then plan else plan.mirror) = body
  have finish : (Piece.plain layout.limit 1 0).Keeps layout.limit 32 := Piece.keeps_plain 1 0
  have branch := Piece.keeps_all_two (keeps_piece layout (.capture 0 body)) finish
  have choice := Piece.keeps_either (.cons branch .nil)
  have opening : ∀ isAnchored : Bool,
      (if isAnchored then Piece.plain layout.limit 1 0
        else .plain layout.limit 3 (2 * Tally.branchSize + Tally.rangeSize)).Keeps layout.limit
        112 := by
    intro isAnchored
    cases isAnchored with
    | true => exact (Piece.keeps_plain 1 0).mono (by decide)
    | false => exact Piece.keeps_plain 3 16
  apply (Piece.keeps_all_two (opening _) choice).mono
  simp only [room, frameRoom, List.length_cons, List.length_nil, List.sum_cons, List.sum_nil]
  omega

/-- The room in both directions is within the limit. -/
def isRoomy (limit : Nat) (isBytewise : Bool) (plan : Plan) : Bool :=
  [true, false].all fun isForward =>
    decide (frameRoom +
      (if isForward then plan else plan.mirror).room ⟨limit, isForward, isBytewise⟩ ≤ limit)

theorem allFit_of_isRoomy {limit : Nat} {isBytewise : Bool} {plan : Plan}
    (roomy : plan.isRoomy limit isBytewise = true) : allFit limit isBytewise [plan] = true := by
  rw [isRoomy, List.all_eq_true] at roomy
  rw [allFit, List.all_eq_true]
  intro isForward member
  have enough := of_decide_eq_true (roomy isForward member)
  have keeps := keeps_automaton ⟨limit, isForward, isBytewise⟩ plan
  rcases keeps {} (by simpa [Tally.size] using enough) with ⟨after, counted, _⟩
  rw [counted]
  rfl

theorem fits_of_isRoomy {limit : Nat} {plan : Plan} (roomy : plan.isRoomy limit false = true) :
    plan.fits limit = true := by
  rw [fits, allFit_of_isRoomy roomy, Bool.or_true]

end Plan

end Pattern

end Precommit
