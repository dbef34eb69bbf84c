import Mathlib.Algebra.Ring.Nat
import Mathlib.Data.List.Forall2
import Precommit.Pattern.Footprint

/-!
# Room for pieces of automata

A piece of an automaton keeps to a room if it can be added wherever that much room is
left and takes no more of it. The room of a piece is put together from those of its
parts. Only the room of sets is an estimate: how many states are shared is decided by
tables, and the estimate counts every state as if none were.
-/

namespace Precommit

namespace Pattern

namespace Tally

theorem exists_add {tally : Tally} {limit states transitions : Nat}
    (enough : tally.size + (32 * states + transitions) ≤ limit) :
    ∃ after, tally.add? limit states transitions = some after ∧
      after.size = tally.size + (32 * states + transitions) := by
  have size : Tally.size ⟨tally.states + states, tally.transitions + transitions⟩ =
      tally.size + (32 * states + transitions) := by
    simp only [Tally.size, stateSize, Nat.mul_add]
    omega
  refine ⟨_, ?_, size⟩
  rw [← size] at enough
  exact if_pos enough

end Tally

namespace Piece

/-- The piece can be added where the room is left, and takes no more than that. -/
def Keeps (piece : Piece) (limit room : Nat) : Prop :=
  ∀ tally : Tally, tally.size + room ≤ limit →
    ∃ after, piece.count? tally = some after ∧ after.size ≤ tally.size + room

variable {limit : Nat}

theorem Keeps.mono {piece : Piece} {room room' : Nat} (keeps : piece.Keeps limit room)
    (le : room ≤ room') : piece.Keeps limit room' := by
  intro tally enough
  rcases keeps tally (by omega) with ⟨after, counted, bound⟩
  exact ⟨after, counted, by omega⟩

theorem keeps_plain (states transitions : Nat) :
    (plain limit states transitions).Keeps limit (32 * states + transitions) := by
  intro tally enough
  rcases Tally.exists_add enough with ⟨after, added, size⟩
  exact ⟨after, added, Nat.le_of_eq size⟩

theorem keeps_fork (branches : Nat) : (fork limit branches).Keeps limit (32 + 4 * branches) :=
  keeps_plain 1 (4 * branches)

theorem keeps_all {pieces : List Piece} {rooms : List Nat}
    (each : List.Forall₂ (fun piece room => piece.Keeps limit room) pieces rooms) :
    (all pieces).Keeps limit rooms.sum := by
  induction each with
  | nil => exact fun tally _ => ⟨tally, rfl, Nat.le_refl _⟩
  | cons first _ ih =>
      intro tally enough
      rw [List.sum_cons] at enough
      rcases first tally (by omega) with ⟨middle, counted, bound⟩
      rcases ih middle (by omega) with ⟨after, rest, bound'⟩
      refine ⟨after, ?_, ?_⟩
      · simp only [all, List.foldlM_cons, counted]
        exact rest
      · rw [List.sum_cons]
        omega

theorem keeps_all_two {first second : Piece} {room room' : Nat} (keeps : first.Keeps limit room)
    (keeps' : second.Keeps limit room') : (all [first, second]).Keeps limit (room + room') := by
  have each := keeps_all (.cons keeps (.cons keeps' .nil))
  simpa using each

theorem keeps_times {piece : Piece} {room : Nat} (keeps : piece.Keeps limit room)
    (count : Nat) : (piece.times count).Keeps limit (count * room) := by
  induction count with
  | zero => exact fun tally _ => ⟨tally, rfl, Nat.le_add_right _ _⟩
  | succ count ih =>
      intro tally enough
      rw [Nat.succ_mul] at enough
      rcases keeps tally (by omega) with ⟨middle, counted, bound⟩
      rcases ih middle (by omega) with ⟨after, rest, bound'⟩
      refine ⟨after, ?_, ?_⟩
      · simp only [times, countTimes?, counted]
        exact rest
      · rw [Nat.succ_mul]
        omega

theorem keeps_either {pieces : List Piece} {rooms : List Nat}
    (each : List.Forall₂ (fun piece room => piece.Keeps limit room) pieces rooms) :
    (either limit pieces).Keeps limit (64 + 4 * pieces.length + rooms.sum) := by
  have fork : (plain limit 2 (4 * pieces.length)).Keeps limit (64 + 4 * pieces.length) :=
    keeps_plain 2 (4 * pieces.length)
  cases each with
  | nil => exact (keeps_all .nil).mono (by simp)
  | cons first rest =>
      cases rest with
      | nil => exact (keeps_all (.cons first .nil)).mono (by simp)
      | cons second rest =>
          have all := keeps_all (.cons first (.cons second (.cons fork rest)))
          apply all.mono
          simp only [List.sum_cons]
          omega

/-- The room of a repetition, from that of its body. -/
def repetitionRoom (least : Nat) (most : Option Nat) (body : Nat) : Nat :=
  match most with
  | none => 112 + max least 1 * body
  | some most => 72 + max least most * (40 + body)

theorem keeps_exactly {body : Piece} {room : Nat} (keeps : body.Keeps limit room) (count : Nat) :
    (if count = 0 then fork limit 0 else body.times count).Keeps limit (32 + count * room) := by
  split
  · exact (keeps_fork 0).mono (by omega)
  · exact (keeps_times keeps count).mono (by omega)

/-- A repetition without a bound, whose last turns lead back to their starts. -/
theorem keeps_repetition_none (least : Nat) (isNullable : Bool) {body : Piece} {room : Nat}
    (keeps : body.Keeps limit room) :
    (repetition limit least none isNullable body).Keeps limit
      (repetitionRoom least none room) := by
  have choice : (fork limit 2).Keeps limit 40 := keeps_fork 2
  have empty : (fork limit 0).Keeps limit 32 := keeps_fork 0
  cases least with
  | zero =>
      have factor : max 0 1 * room = room := by rw [Nat.zero_max, Nat.one_mul]
      simp only [repetition, repetitionRoom, factor]
      split
      · apply (keeps_all (.cons keeps (.cons choice (.cons choice (.cons empty .nil))))).mono
        simp only [List.sum_cons, List.sum_nil]
        omega
      · apply (keeps_all_two choice keeps).mono
        omega
  | succ least =>
      have factor : max (least + 1) 1 = least + 1 := by omega
      simp only [repetitionRoom, factor]
      apply (keeps_all_two (keeps_times keeps (least + 1)) choice).mono
      omega

/-- A repetition with a bound: the turns that have to be taken, and those that may be. -/
theorem keeps_repetition_some (least most : Nat) (isNullable : Bool) {body : Piece} {room : Nat}
    (keeps : body.Keeps limit room) :
    (repetition limit least (some most) isNullable body).Keeps limit
      (repetitionRoom least (some most) room) := by
  have choice : (fork limit 2).Keeps limit 40 := keeps_fork 2
  have empty : (fork limit 0).Keeps limit 32 := keeps_fork 0
  have count : max least most = least + (most - least) := by omega
  have enough : 72 + least * room + (most - least) * (40 + room) ≤
      repetitionRoom least (some most) room := by
    simp only [repetitionRoom, count, Nat.add_mul, Nat.mul_add]
    omega
  simp only [repetition]
  split
  · apply (keeps_exactly keeps least).mono
    omega
  · split
    · rename_i single
      simp only [Bool.and_eq_true, decide_eq_true_eq] at single
      rcases single with ⟨rfl, rfl⟩
      have factor : max 0 1 * (40 + room) = 40 + room := by rw [Nat.zero_max, Nat.one_mul]
      apply (keeps_all (.cons choice (.cons keeps (.cons empty .nil)))).mono
      simp only [repetitionRoom, factor, List.sum_cons, List.sum_nil]
      omega
    · have turns := keeps_times (keeps_all_two choice keeps) (most - least)
      apply (keeps_all (.cons (keeps_exactly keeps least) (.cons empty (.cons turns .nil)))).mono
      simp only [List.sum_cons, List.sum_nil]
      omega

theorem keeps_repetition (least : Nat) (most : Option Nat) (isNullable : Bool) {body : Piece}
    {room : Nat} (keeps : body.Keeps limit room) :
    (repetition limit least most isNullable body).Keeps limit
      (repetitionRoom least most room) := by
  cases most with
  | none => exact keeps_repetition_none least isNullable keeps
  | some most => exact keeps_repetition_some least most isNullable keeps

namespace ForwardStates

theorem keeps_state {states : ForwardStates} {edges : List Edge}
    (enough : states.tally.size + (32 + 8 * edges.length) ≤ limit) :
    ∃ number after, states.state? limit edges = some (number, after) ∧
      after.tally.size ≤ states.tally.size + (32 + 8 * edges.length) := by
  have enough' : states.tally.size + (32 * 1 + 8 * edges.length) ≤ limit := enough
  rcases Tally.exists_add enough' with ⟨tally, added, size⟩
  simp only [state?, Tally.rangeSize, added, Option.map_some]
  split
  · split
    · exact ⟨_, _, rfl, Nat.le_add_right _ _⟩
    · exact ⟨_, _, rfl, Nat.le_of_eq size⟩
  · exact ⟨_, _, rfl, Nat.le_of_eq size⟩

/-- What is grouped are the sequences themselves, and no group is empty. -/
theorem length_groups_le (sequences : List (List ByteRange)) :
    (groups sequences).length ≤ ((groups sequences).map (·.2.length)).sum ∧
      ((groups sequences).map (·.2.length)).sum ≤ sequences.length := by
  unfold groups
  induction sequences with
  | nil => simp
  | cons sequence rest ih =>
      rw [List.foldr_cons]
      generalize List.foldr _ [] rest = found at ih ⊢
      split
      · simp only [List.length_cons]
        omega
      · simp only [List.map_cons, List.sum_cons, List.length_cons] at ih
        split
        · simp only [List.map_cons, List.sum_cons, List.length_cons]
          omega
        · simp only [List.map_cons, List.sum_cons, List.length_cons, List.length_nil]
          omega
      · simp

/-- The room of what groups of sequences lead to, if each sequence has `length` ranges. -/
def groupsRoom (length : Nat) (groups : List (ByteRange × List (List ByteRange))) : Nat :=
  (groups.map fun group => 32 + 40 * length * group.2.length).sum

theorem groupsRoom_eq (length : Nat) (groups : List (ByteRange × List (List ByteRange))) :
    groupsRoom length groups =
      32 * groups.length + 40 * length * (groups.map (·.2.length)).sum := by
  induction groups with
  | nil => simp [groupsRoom]
  | cons group rest ih =>
      rw [groupsRoom, List.map_cons, List.sum_cons, ← groupsRoom, ih]
      simp only [List.length_cons, List.map_cons, List.sum_cons, Nat.mul_add]
      omega

/-- Add the edge of a group after the states that it leads to. -/
def addGroup? (limit target length : Nat) (found : List Edge × ForwardStates)
    (group : ByteRange × List (List ByteRange)) : Option (List Edge × ForwardStates) :=
  if group.2.head? = some [] then some (⟨group.1, target⟩ :: found.1, found.2)
  else
    (root? limit target length found.2 group.2).map fun below =>
      (⟨group.1, below.1⟩ :: found.1, below.2)

theorem root?_succ (limit target length : Nat) (states : ForwardStates)
    (sequences : List (List ByteRange)) :
    root? limit target (length + 1) states sequences =
      ((groups sequences).foldlM (addGroup? limit target length) ([], states)).bind
        fun found => found.2.state? limit found.1.reverse :=
  rfl

/-- The states below sequences of a length find room, and add no more than that. -/
def KeepsRoot (limit target length : Nat) : Prop :=
  ∀ (states : ForwardStates) (sequences : List (List ByteRange)),
    states.tally.size + (32 + 40 * length * sequences.length) ≤ limit →
      ∃ number after, root? limit target length states sequences = some (number, after) ∧
        after.tally.size ≤ states.tally.size + (32 + 40 * length * sequences.length)

variable {target length : Nat}

theorem keeps_addGroup (keeps : KeepsRoot limit target length) (edges : List Edge)
    (states : ForwardStates) (group : ByteRange × List (List ByteRange))
    (enough : states.tally.size + (32 + 40 * length * group.2.length) ≤ limit) :
    ∃ edge after, addGroup? limit target length (edges, states) group =
        some (edge :: edges, after) ∧
      after.tally.size ≤ states.tally.size + (32 + 40 * length * group.2.length) := by
  unfold addGroup?
  split
  · exact ⟨_, states, rfl, Nat.le_add_right _ _⟩
  · rcases keeps states group.2 enough with ⟨number, below, found, bound⟩
    refine ⟨⟨group.1, number⟩, below, ?_, bound⟩
    rw [found]
    rfl

/-- The groups find room one after the other, each with the states below its first range. -/
theorem keeps_addGroups (keeps : KeepsRoot limit target length)
    (groups : List (ByteRange × List (List ByteRange))) (edges : List Edge)
    (states : ForwardStates) (enough : states.tally.size + groupsRoom length groups ≤ limit) :
    ∃ edges' after,
      groups.foldlM (addGroup? limit target length) (edges, states) = some (edges', after) ∧
      edges'.length = edges.length + groups.length ∧
      after.tally.size ≤ states.tally.size + groupsRoom length groups := by
  induction groups generalizing edges states with
  | nil => exact ⟨edges, states, rfl, rfl, Nat.le_add_right _ _⟩
  | cons group rest ih =>
      have rooms : groupsRoom length (group :: rest) =
          32 + 40 * length * group.2.length + groupsRoom length rest := by
        rw [groupsRoom, List.map_cons, List.sum_cons, ← groupsRoom]
      rw [rooms] at enough ⊢
      rcases keeps_addGroup keeps edges states group (by omega) with
        ⟨edge, below, found, bound⟩
      rcases ih (edge :: edges) below (by omega) with ⟨edges', after, found', count, bound'⟩
      refine ⟨edges', after, ?_, ?_, by omega⟩
      · rw [List.foldlM_cons, found]
        exact found'
      · simp only [List.length_cons] at count ⊢
        omega

theorem keeps_root (target length : Nat) : KeepsRoot limit target length := by
  induction length with
  | zero => exact fun states _ _ => ⟨target, states, rfl, Nat.le_add_right _ _⟩
  | succ length ih =>
      intro states sequences enough
      rcases length_groups_le sequences with ⟨nonempty, grouped⟩
      have total : groupsRoom length (groups sequences) + (32 + 8 * (groups sequences).length) ≤
          32 + 40 * (length + 1) * sequences.length := by
        rw [groupsRoom_eq]
        have scaled := Nat.mul_le_mul_left (40 * length) grouped
        simp only [Nat.mul_add, Nat.add_mul]
        omega
      rcases keeps_addGroups ih (groups sequences) [] states (by omega) with
        ⟨edges, below, found, count, bound⟩
      have reversed : edges.reverse.length = (groups sequences).length := by
        rw [List.length_reverse, count]
        exact Nat.zero_add _
      have enough' : below.tally.size + (32 + 8 * edges.reverse.length) ≤ limit := by
        rw [reversed]
        omega
      rcases keeps_state enough' with ⟨number, after, added, bound'⟩
      rw [reversed] at bound'
      refine ⟨number, after, ?_, by omega⟩
      rw [root?_succ, found]
      exact added

end ForwardStates

namespace BackwardStates

theorem keeps_state {states : BackwardStates} {edge : Edge}
    (enough : states.tally.size + 32 ≤ limit) :
    ∃ number after, states.state? limit edge = some (number, after) ∧
      after.tally.size ≤ states.tally.size + 32 := by
  have enough' : states.tally.size + (32 * 1 + 0) ≤ limit := enough
  rcases Tally.exists_add enough' with ⟨tally, added, size⟩
  simp only [state?, added, Option.map_some]
  split
  · split
    · exact ⟨_, _, rfl, Nat.le_add_right _ _⟩
    · exact ⟨_, _, rfl, Nat.le_of_eq size⟩
  · exact ⟨_, _, rfl, Nat.le_of_eq size⟩

theorem keeps_chain (target : Nat) (states : BackwardStates) (sequence : List ByteRange)
    (enough : states.tally.size + 32 * sequence.length ≤ limit) :
    ∃ number after,
      sequence.foldlM
        (fun (target, states) range => state? states limit ⟨range, target⟩) (target, states) =
          some (number, after) ∧
        after.tally.size ≤ states.tally.size + 32 * sequence.length := by
  induction sequence generalizing target states with
  | nil => exact ⟨target, states, rfl, Nat.le_add_right _ _⟩
  | cons range rest ih =>
      rw [List.length_cons] at enough
      have enough' : states.tally.size + 32 ≤ limit := by omega
      rcases @keeps_state limit states ⟨range, target⟩ enough' with
        ⟨number, middle, found, bound⟩
      rcases ih number middle (by omega) with ⟨number', after, found', bound'⟩
      refine ⟨number', after, ?_, ?_⟩
      · rw [List.foldlM_cons]
        simp only [found]
        exact found'
      · rw [List.length_cons]
        omega

theorem keeps_add {target : Nat} {states : BackwardStates} {sequence : List ByteRange}
    (short : sequence.length ≤ 4) (enough : states.tally.size + 160 ≤ limit) :
    ∃ after, states.add? limit target sequence = some after ∧
      after.tally.size ≤ states.tally.size + 160 := by
  rcases keeps_chain target states sequence (show _ ≤ limit by omega) with
    ⟨number, chained, found, bound⟩
  have enough' : chained.tally.size + (32 * 0 + 4) ≤ limit := by omega
  rcases Tally.exists_add enough' with ⟨tally, ended, size⟩
  refine ⟨⟨tally, chained.table⟩, ?_, ?_⟩
  · simp only [add?, found, Option.bind_eq_bind, Option.bind_some, Tally.branchSize, ended]
    rfl
  · simp only
    omega

theorem keeps_adds {target : Nat} (states : BackwardStates) (sequences : List (List ByteRange))
    (short : ∀ sequence ∈ sequences, sequence.length ≤ 4)
    (enough : states.tally.size + 160 * sequences.length ≤ limit) :
    ∃ after, sequences.foldlM (add? limit target) states = some after ∧
      after.tally.size ≤ states.tally.size + 160 * sequences.length := by
  induction sequences generalizing states with
  | nil => exact ⟨states, rfl, Nat.le_add_right _ _⟩
  | cons sequence rest ih =>
      rw [List.length_cons] at enough
      rw [List.forall_mem_cons] at short
      have enough' : states.tally.size + 160 ≤ limit := by omega
      rcases @keeps_add limit target states sequence short.1 enough' with ⟨middle, found, bound⟩
      rcases ih middle short.2 (by omega) with ⟨after, found', bound'⟩
      refine ⟨after, ?_, ?_⟩
      · rw [List.foldlM_cons, found]
        exact found'
      · rw [List.length_cons]
        omega

end BackwardStates

theorem length_encode_single_le (character : Char) : (Utf8.encode [character]).length ≤ 4 := by
  rw [Utf8.encode, List.flatMap_singleton, String.length_utf8EncodeChar]
  exact Char.utf8Size_le_four character

theorem length_le_of_mem_sequences (first last : Nat) :
    ∀ sequence ∈ ByteRange.sequences first last, sequence.length ≤ 4 := by
  have short : ∀ first last, (ByteRange.product first last).length ≤ 4 := by
    intro first last
    have bound := length_encode_single_le (Char.ofNat first)
    rw [ByteRange.product, List.length_zipWith]
    omega
  induction first, last using ByteRange.sequences.induct with
  | case1 first last lower cut bounds ih ih' =>
      intro sequence member
      rw [ByteRange.sequences, cut] at member
      simp only [if_pos bounds, List.mem_append] at member
      rcases member with member | member
      · exact ih sequence member
      · exact ih' sequence member
  | case2 first last lower cut bounds =>
      intro sequence member
      rw [ByteRange.sequences, cut] at member
      simp only [if_neg bounds, List.mem_singleton] at member
      rw [member]
      exact short _ _
  | case3 first last cut =>
      intro sequence member
      rw [ByteRange.sequences, cut] at member
      simp only [List.mem_singleton] at member
      rw [member]
      exact short _ _

/-- The room of a set, as if no states were shared. -/
def setRoom (layout : Layout) (ranges : CodeRanges) : Nat :=
  if layout.isBytewise || isAscii ranges then 64 + 8 * ranges.length
  else 64 + 160 * (ranges.flatMap fun (first, last) => ByteRange.sequences first last).length

theorem keeps_set (layout : Layout) (ranges : CodeRanges) :
    (set layout ranges).Keeps layout.limit (setRoom layout ranges) := by
  unfold set setRoom
  split
  · exact keeps_plain 2 (8 * ranges.length)
  · intro tally enough
    have short : ∀ sequence ∈ ranges.flatMap fun (first, last) =>
        ByteRange.sequences first last, sequence.length ≤ 4 := by
      intro sequence member
      rcases List.mem_flatMap.1 member with ⟨range, _, member⟩
      exact length_le_of_mem_sequences _ _ sequence member
    generalize (ranges.flatMap fun (first, last) => ByteRange.sequences first last) = sequences
      at enough short
    simp only
    split
    · have enough' : tally.size + (32 * 1 + 0) ≤ layout.limit := by omega
      rcases Tally.exists_add enough' with ⟨opened, added, size⟩
      have root : ForwardStates.KeepsRoot layout.limit tally.states 4 :=
        ForwardStates.keeps_root tally.states 4
      have left : opened.size + (32 + 40 * 4 * sequences.length) ≤ layout.limit := by omega
      rcases root { tally := opened } sequences left with ⟨number, after, found, bound⟩
      simp only at bound
      refine ⟨after.tally, ?_, by omega⟩
      simp only [added, Option.bind_some, found, Option.map_some]
    · have enough' : tally.size + (32 * 2 + 0) ≤ layout.limit := by omega
      rcases Tally.exists_add enough' with ⟨opened, added, size⟩
      have chains := @BackwardStates.keeps_adds layout.limit (tally.states + 1)
        { tally := opened } sequences short
      simp only at chains
      rcases chains (by omega) with ⟨after, found, bound⟩
      refine ⟨after.tally, ?_, by omega⟩
      simp only [added, Option.bind_some, found, Option.map_some]

end Piece

end Pattern

end Precommit
