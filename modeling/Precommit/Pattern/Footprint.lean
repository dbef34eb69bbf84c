import Precommit.Pattern.ByteSequences
import Precommit.Pattern.Plan
import Std.Data.HashMap

/-!
# The size of automata

A pattern may only be as large as its automata: one that reads texts forwards and one
that reads them backwards, both byte by byte. Their sizes are counted here without
building them. Every state takes the same room, and room of its own for each of its
transitions if there are several. `Plan.allFit` says whether both automata keep to a
limit.

Sets of characters beyond ASCII are the reason why the count goes state by state. The
states for their encodings are shared through tables in which later entries push out
earlier ones, so how many of them there are depends on where in the automaton the set
stands.
-/

namespace Precommit

namespace Pattern

/-- The states of an automaton so far, and the room their transitions take in bytes. -/
structure Tally where
  states : Nat := 0
  transitions : Nat := 0

namespace Tally

/-- The room that a state takes without its transitions. -/
def stateSize : Nat := 32

/-- The room that a transition on a range of bytes takes. -/
def rangeSize : Nat := 8

/-- The room that a transition without a byte takes. -/
def branchSize : Nat := 4

/-- The room that the automaton takes, in bytes. -/
def size (tally : Tally) : Nat :=
  stateSize * tally.states + tally.transitions

/-- Count more, if that keeps to the limit. -/
def add? (tally : Tally) (limit states transitions : Nat) : Option Tally :=
  let tally : Tally := ⟨tally.states + states, tally.transitions + transitions⟩
  if tally.size ≤ limit then some tally else none

end Tally

/-- A part of an automaton, as what it adds to a tally; nothing if that exceeds the limit. -/
structure Piece where
  count? : Tally → Option Tally

/-- What kind of automaton is built. -/
structure Layout where
  /-- The room that it may take, in bytes. -/
  limit : Nat
  /-- Whether it reads texts from their starts; only then it keeps track of groups. -/
  isForward : Bool
  /-- Whether the characters of sets stand for single bytes. -/
  isBytewise : Bool := false

namespace Piece

/-- The given numbers of states and bytes for transitions. -/
def plain (limit states transitions : Nat) : Piece :=
  ⟨fun tally => tally.add? limit states transitions⟩

/-- A state that leads on without a byte to the given number of states. -/
def fork (limit branches : Nat) : Piece :=
  plain limit 1 (Tally.branchSize * branches)

/-- The pieces one after the other. -/
def all (pieces : List Piece) : Piece :=
  ⟨fun tally => pieces.foldlM (fun tally piece => piece.count? tally) tally⟩

/-- The piece a number of times, from a tally. -/
def countTimes? (piece : Piece) (tally : Tally) : Nat → Option Tally
  | 0 => some tally
  | count + 1 =>
      match piece.count? tally with
      | none => none
      | some tally => piece.countTimes? tally count

def times (piece : Piece) (count : Nat) : Piece :=
  ⟨fun tally => piece.countTimes? tally count⟩

end Piece

/-- Mixing the numbers of a key to a slot of a table. -/
def slot (size : UInt64) (numbers : List Nat) : UInt64 :=
  numbers.foldl (fun hash number => (hash ^^^ UInt64.ofNat number) * 1099511628211)
    14695981039346656037 % size

namespace Piece

/-- A transition on a range of bytes to the state of a number. -/
structure Edge where
  range : ByteRange
  target : Nat
deriving DecidableEq

namespace Edge

/-- The numbers that tell an edge from others. -/
def key (edge : Edge) : List Nat :=
  [edge.range.first.toNat, edge.range.last.toNat, edge.target]

end Edge

/-- The states for encodings read forwards: shared if they agree in all of their edges. -/
structure ForwardStates where
  tally : Tally
  /-- The edges and the number of the latest state of each slot. -/
  table : Std.HashMap UInt64 (List Edge × Nat) := {}

namespace ForwardStates

def slots : UInt64 := 10000

/-- The number of the state with the given edges, which is added if it is not at hand. -/
def state? (states : ForwardStates) (limit : Nat) (edges : List Edge) :
    Option (Nat × ForwardStates) :=
  let place := slot slots (edges.flatMap Edge.key)
  let add : Option (Nat × ForwardStates) :=
    (states.tally.add? limit 1 (Tally.rangeSize * edges.length)).map fun tally =>
      let number := states.tally.states
      (number, { tally := tally, table := states.table.insert place (edges, number) })
  match states.table[place]? with
  | some (others, number) => if others = edges then some (number, states) else add
  | none => add

/-- The sequences, grouped by what adjacent ones have in common as their first range. -/
def groups (sequences : List (List ByteRange)) : List (ByteRange × List (List ByteRange)) :=
  sequences.foldr
    (fun sequence groups =>
      match sequence, groups with
      | [], _ => groups
      | range :: rest, (other, rests) :: groups =>
          if range = other then (other, rest :: rests) :: groups
          else (range, [rest]) :: (other, rests) :: groups
      | range :: rest, [] => [(range, [rest])])
    []

/--
The number of a state from which the sequences lead to the state `target`; they have at
most `length` ranges. States further on are added first.
-/
def root? (limit target : Nat) : Nat → ForwardStates → List (List ByteRange) →
    Option (Nat × ForwardStates)
  | 0, states, _ => some (target, states)
  | length + 1, states, sequences => do
      let (edges, states) ← (groups sequences).foldlM
        (fun (edges, states) (range, rests) =>
          if rests.head? = some [] then some (⟨range, target⟩ :: edges, states)
          else
            (root? limit target length states rests).map fun (number, states) =>
              (⟨range, number⟩ :: edges, states))
        (([], states) : List Edge × ForwardStates)
      states.state? limit edges.reverse

end ForwardStates

/-- The states for encodings read backwards: shared if they have the same single edge. -/
structure BackwardStates where
  tally : Tally
  /-- The edge and the number of the latest state of each slot. -/
  table : Std.HashMap UInt64 (Edge × Nat) := {}

namespace BackwardStates

def slots : UInt64 := 1000

/-- The number of the state with the given edge, which is added if it is not at hand. -/
def state? (states : BackwardStates) (limit : Nat) (edge : Edge) :
    Option (Nat × BackwardStates) :=
  let place := slot slots [edge.target, edge.range.first.toNat, edge.range.last.toNat]
  let add : Option (Nat × BackwardStates) :=
    (states.tally.add? limit 1 0).map fun tally =>
      let number := states.tally.states
      (number, { tally := tally, table := states.table.insert place (edge, number) })
  match states.table[place]? with
  | some (other, number) => if other = edge then some (number, states) else add
  | none => add

/-- The states from which a sequence, read backwards, leads to the state `target`. -/
def add? (limit target : Nat) (states : BackwardStates) (sequence : List ByteRange) :
    Option BackwardStates := do
  let (_, states) ← sequence.foldlM
    (fun (target, states) range => state? states limit ⟨range, target⟩) (target, states)
  let tally ← states.tally.add? limit 0 Tally.branchSize
  pure { states with tally := tally }

end BackwardStates

/-- Whether the ranges have no character beyond ASCII. -/
def isAscii (ranges : CodeRanges) : Bool :=
  ranges.all fun range => range.2 < 0x80

/-- One character of the ranges. -/
def set (layout : Layout) (ranges : CodeRanges) : Piece :=
  if layout.isBytewise || isAscii ranges then
    plain layout.limit 2 (Tally.rangeSize * ranges.length)
  else
    let sequences := ranges.flatMap fun (first, last) => ByteRange.sequences first last
    if layout.isForward then
      ⟨fun tally =>
        (tally.add? layout.limit 1 0).bind fun added =>
          (ForwardStates.root? layout.limit tally.states 4 { tally := added } sequences).map
            (·.2.tally)⟩
    else
      ⟨fun tally =>
        (tally.add? layout.limit 2 0).bind fun added =>
          (sequences.foldlM (BackwardStates.add? layout.limit (tally.states + 1))
            { tally := added }).map (·.tally)⟩

/--
The texts whose beginnings have been read, as a node of a tree that shares common
beginnings. A text that ends here closes a chunk of the node.
-/
structure Chunks where
  /-- The chunks before the current one, as numbers of their edges. -/
  closed : List (List (List UInt8)) := []
  /-- The texts of the current chunk, the last one first. -/
  current : List (List UInt8) := []

namespace Chunks

/-- The node with one more text. -/
def add (chunks : Chunks) (text : List UInt8) : Chunks :=
  if !text.isEmpty then { chunks with current := text :: chunks.current }
  else if chunks.current.isEmpty && !chunks.closed.isEmpty && chunks.closed.all (·.isEmpty) then
    chunks
  else { closed := chunks.current.reverse :: chunks.closed }

/-- The texts of all chunks. -/
def all (chunks : Chunks) : List (List (List UInt8)) :=
  chunks.current.reverse :: chunks.closed

end Chunks

/-- Texts by their first bytes, with what follows these, the last one first. -/
abbrev Continuations := List (UInt8 × List (List UInt8))

namespace Continuations

/-- The table with one more text. -/
def add (table : Continuations) (byte : UInt8) (rest : List UInt8) : Continuations :=
  match table with
  | [] => [(byte, [rest])]
  | (other, rests) :: table =>
      if other = byte then (other, rest :: rests) :: table
      else (other, rests) :: add table byte rest

end Continuations

/-- What follows each first byte of the texts. -/
def continuations (texts : List (List UInt8)) : List (List (List UInt8)) :=
  let table : Continuations :=
    texts.foldl
      (fun table text =>
        match text with
        | [] => table
        | byte :: rest => table.add byte rest)
      []
  table.map fun (_, rests) => rests.reverse

/--
The states and the bytes for transitions of the tree below a node that the texts pass,
which have at most `length` bytes from there on. Nothing is needed where all texts end.
-/
def treeSize : Nat → List (List UInt8) → Nat × Nat
  | 0, _ => (0, 0)
  | length + 1, texts =>
      match texts with
      | [text] => (2 * text.length, Tally.branchSize * text.length)
      | texts =>
          if texts.all (·.isEmpty) then (0, 0)
          else
            let chunks := (texts.foldl Chunks.add {}).all
            let branches := (chunks.filter fun chunk => !chunk.isEmpty).length + (chunks.length - 1)
            chunks.foldl
              (fun (states, transitions) chunk =>
                let children := continuations chunk
                let room :=
                  if 2 ≤ children.length then Tally.rangeSize * children.length else 0
                children.foldl
                  (fun (states, transitions) rests =>
                    let (more, room) := treeSize length rests
                    (states + more, transitions + room))
                  (states + (if chunk.isEmpty then 0 else 1), transitions + room))
              (1, Tally.branchSize * branches)

/-- One of several texts, which are mirrored for reading them backwards. -/
def texts (layout : Layout) (texts : List (List Char)) : Piece :=
  let encodings := texts.map fun text =>
    if layout.isForward then Utf8.encode text else (Utf8.encode text.reverse).reverse
  let length := encodings.foldl (fun length encoding => max length encoding.length) 0
  let (states, transitions) := treeSize length encodings
  plain layout.limit (states + 1) transitions

def either (limit : Nat) (pieces : List Piece) : Piece :=
  match pieces with
  | first :: second :: rest =>
      let fork := plain limit 2 (Tally.branchSize * pieces.length)
      all (first :: second :: fork :: rest)
  | pieces => all pieces

/-- From `least` to `most` times the body, of which it is known whether it can take nothing. -/
def repetition (limit least : Nat) (most : Option Nat) (isNullable : Bool) (body : Piece) :
    Piece :=
  let choice := fork limit 2
  let empty := fork limit 0
  let exactly (count : Nat) : Piece := if count = 0 then empty else body.times count
  match least, most with
  | 0, none => if isNullable then all [body, choice, choice, empty] else all [choice, body]
  | least, none => all [body.times least, choice]
  | least, some most =>
      if least = most then exactly least
      else if least = 0 && most = 1 then all [choice, body, empty]
      else all [exactly least, empty, (all [choice, body]).times (most - least)]

end Piece

namespace Plan

/-- The text that the plan stands for, if it is one. -/
def text? : Plan → Option (List Char)
  | .text characters => some characters
  | _ => none

mutual

/-- The part of an automaton for the plan, which is mirrored for reading backwards. -/
def piece (layout : Layout) : Plan → Piece
  | .empty => .fork layout.limit 0
  | .text characters => .plain layout.limit (Utf8.encode characters).length 0
  | .set ranges => .set layout ranges
  | .assertion _ => .plain layout.limit 1 0
  | .repetition least most _ body =>
      .repetition layout.limit least most (body.minimumLength.getD 0 == 0) (body.piece layout)
  | .capture _ body =>
      if layout.isForward then
        .all [.plain layout.limit 1 0, body.piece layout, .plain layout.limit 1 0]
      else body.piece layout
  | .sequence items => .all (pieces layout [] items)
  | .alternative branches =>
      match branches.mapM text? with
      | some texts => .texts layout texts
      | none => .either layout.limit (pieces layout [] branches)

/-- The parts for the plans, after those in `done`, the last of which comes first. -/
def pieces (layout : Layout) (done : List Piece) : List Plan → List Piece
  | [] => done.reverse
  | plan :: rest => pieces layout (plan.piece layout :: done) rest

end

/--
The automaton that looks for all of the plans: what leads to the place where a match
begins, and the plans, each with a group around it and an end.
-/
def automaton (layout : Layout) (plans : List Plan) : Piece :=
  let plans := plans.map fun plan =>
    Plan.capture 0 (if layout.isForward then plan else plan.mirror)
  let isAnchored :=
    plans.all (·.opensWith (if layout.isForward then .textStart else .textEnd))
  let opening : Piece :=
    if isAnchored then .plain layout.limit 1 0
    else .plain layout.limit 3 (2 * Tally.branchSize + Tally.rangeSize)
  .all
    [opening,
      .either layout.limit
        (plans.map fun plan => .all [plan.piece layout, .plain layout.limit 1 0])]

/-- Whether both automata for the plans keep to a limit, given in bytes. -/
def allFit (limit : Nat) (isBytewise : Bool) (plans : List Plan) : Bool :=
  [true, false].all fun isForward =>
    ((automaton ⟨limit, isForward, isBytewise⟩ plans).count? {}).isSome

/-- The number of texts from which on they are looked up without an automaton. -/
def manyTexts : Nat := 3000

/-- Whether the plan is a choice between so many texts that it needs no automaton. -/
def isDictionary : Plan → Bool
  | .alternative branches => manyTexts ≤ branches.length && branches.all (·.text?.isSome)
  | _ => false

/-- Whether a plan for characters keeps to a limit, given in bytes. -/
def fits (limit : Nat) (plan : Plan) : Bool :=
  plan.isDictionary || allFit limit false [plan]

end Plan

end Pattern

end Precommit
