import Precommit.Text.Line

/-!
# Open debug blocks

A debug block is open after some lines if, from some line on, more blocks have been
opened than closed. The depth that is counted while reading is positive exactly in
that case, as a closing line without an opening one before it is not counted against
later blocks.
-/

namespace Precommit

namespace Line

/-- The line opens a debug block. -/
def opensDebug (line : Line) : Bool :=
  Text.trim line = "#if DEBUG".toList

/-- The line closes a block. -/
def closesDebug (line : Line) : Bool :=
  Text.trim line = "#endif".toList

/-- Some last part of the lines has more opening than closing lines. -/
def DebugOpen (lines : List Line) : Prop :=
  ∃ earlier later, lines = earlier ++ later ∧
    later.countP closesDebug < later.countP opensDebug

/-- The number of blocks that are open after some lines. -/
def depthAfter (lines : List Line) : Nat :=
  lines.foldl debugDepth 0

theorem not_debugOpen_nil : ¬DebugOpen [] := by
  rintro ⟨earlier, later, split, more⟩
  obtain ⟨rfl, rfl⟩ := List.append_eq_nil_iff.1 split.symm
  simp at more

theorem debugOpen_cons_iff {line : Line} {rest : List Line} :
    DebugOpen (line :: rest) ↔
      DebugOpen rest ∨
        (line :: rest).countP closesDebug < (line :: rest).countP opensDebug := by
  constructor
  · rintro ⟨earlier, later, split, more⟩
    cases earlier with
    | nil =>
        obtain rfl : line :: rest = later := by simpa using split
        exact .inr more
    | cons initial earlier =>
        obtain ⟨rfl, rfl⟩ := List.cons.inj split
        exact .inl ⟨earlier, later, rfl, more⟩
  · rintro (⟨earlier, later, rfl, more⟩ | more)
    · exact ⟨line :: earlier, later, rfl, more⟩
    · exact ⟨[], line :: rest, rfl, more⟩

theorem debugOpen_of_countP_lt {lines : List Line}
    (more : lines.countP closesDebug < lines.countP opensDebug) : DebugOpen lines :=
  ⟨[], lines, rfl, more⟩

theorem not_closesDebug_of_opensDebug {line : Line} (opens : line.opensDebug = true) :
    line.closesDebug = false := by
  simp only [opensDebug, decide_eq_true_eq] at opens
  simp [closesDebug, opens]

theorem debugDepth_of_opensDebug {line : Line} (depth : Nat) (opens : line.opensDebug = true) :
    line.debugDepth depth = depth + 1 := by
  simp only [opensDebug, decide_eq_true_eq] at opens
  simp [debugDepth, opens]

theorem debugDepth_of_closesDebug {line : Line} (depth : Nat)
    (closes : line.closesDebug = true) : line.debugDepth depth = depth - 1 := by
  simp only [closesDebug, decide_eq_true_eq] at closes
  simp [debugDepth, closes]

theorem debugDepth_of_neither {line : Line} (depth : Nat) (opens : line.opensDebug = false)
    (closes : line.closesDebug = false) : line.debugDepth depth = depth := by
  have notOpens := of_decide_eq_false opens
  have notCloses := of_decide_eq_false closes
  unfold debugDepth
  rw [if_neg notOpens, if_neg notCloses]

/-- Blocks that are open at the start stay open until as many closing lines have come. -/
theorem foldl_debugDepth_pos_iff (depth : Nat) (lines : List Line) :
    0 < lines.foldl debugDepth depth ↔
      DebugOpen lines ∨ lines.countP closesDebug < depth + lines.countP opensDebug := by
  induction lines generalizing depth with
  | nil => simp [not_debugOpen_nil]
  | cons line rest ih =>
      have whole := @debugOpen_of_countP_lt rest
      rw [List.foldl_cons, ih, debugOpen_cons_iff]
      simp only [List.countP_cons]
      cases opens : line.opensDebug with
      | true =>
          have closes := not_closesDebug_of_opensDebug opens
          simp only [debugDepth_of_opensDebug depth opens, closes]
          grind
      | false =>
          cases closes : line.closesDebug with
          | true =>
              simp only [debugDepth_of_closesDebug depth closes]
              grind
          | false =>
              simp only [debugDepth_of_neither depth opens closes]
              grind

theorem depthAfter_pos_iff (lines : List Line) : 0 < depthAfter lines ↔ DebugOpen lines := by
  rw [depthAfter, foldl_debugDepth_pos_iff]
  constructor
  · rintro (isOpen | more)
    · exact isOpen
    · exact debugOpen_of_countP_lt (by omega)
  · exact .inl

theorem getElem?_insideDebugFrom (depth index : Nat) (lines : List Line) :
    (insideDebugFrom depth lines)[index]? =
      lines[index]?.map fun _ => decide (0 < (lines.take index).foldl debugDepth depth) := by
  induction lines generalizing depth index with
  | nil => simp [insideDebugFrom]
  | cons line rest ih =>
      cases index with
      | zero =>
          simp only [insideDebugFrom, List.getElem?_cons_zero, Option.map_some, List.take_zero,
            List.foldl_nil]
          rfl
      | succ index =>
          simp only [insideDebugFrom, List.getElem?_cons_succ, List.take_succ_cons,
            List.foldl_cons]
          exact ih _ index

/-- The lines of a text as a check meets them: with their numbers and their flags. -/
theorem getElem?_zip_insideDebug (lines : List Line) (index : Nat) :
    ((Text.numbered lines).zip (insideDebug lines))[index]? =
      lines[index]?.map fun line =>
        ((index + 1, line), decide (0 < depthAfter (lines.take index))) := by
  have flags := getElem?_insideDebugFrom 0 index lines
  rw [← insideDebug] at flags
  simp only [Text.numbered, List.zip, List.getElem?_zipWith, flags]
  cases found : lines[index]? with
  | none => simp
  | some line =>
      obtain ⟨bound, rfl⟩ := List.getElem?_eq_some_iff.1 found
      simp only [List.getElem?_range' bound, Option.map_some, Nat.one_mul, Nat.add_comm 1]
      rfl

/-- What a check meets is a line with its number and with what is open over the lines before. -/
theorem exists_split_of_mem_zip {lines : List Line} {part : (Nat × Line) × Bool}
    (member : part ∈ (Text.numbered lines).zip (insideDebug lines)) :
    ∃ before line after, lines = before ++ line :: after ∧
      part = ((before.length + 1, line), decide (0 < depthAfter before)) := by
  rcases List.getElem?_of_mem member with ⟨index, found⟩
  rw [getElem?_zip_insideDebug] at found
  rcases Option.map_eq_some_iff.1 found with ⟨line, listed, rfl⟩
  rcases List.getElem?_eq_some_iff.1 listed with ⟨bound, rfl⟩
  have length : (lines.take index).length = index :=
    List.length_take_of_le (Nat.le_of_lt bound)
  refine ⟨lines.take index, lines[index], lines.drop (index + 1), ?_, ?_⟩
  · simp
  · rw [length]

theorem mem_zip_insideDebug (before : List Line) (line : Line) (after : List Line) :
    ((before.length + 1, line), decide (0 < depthAfter before)) ∈
      (Text.numbered (before ++ line :: after)).zip (insideDebug (before ++ line :: after)) := by
  apply List.mem_of_getElem? (i := before.length)
  rw [getElem?_zip_insideDebug]
  simp

/-- The flag of a line is what is open over the lines before it. -/
theorem getElem?_insideDebug_length (before : List Line) (line : Line) (after : List Line) :
    (insideDebug (before ++ line :: after))[before.length]? =
      some (decide (0 < depthAfter before)) := by
  rw [insideDebug, getElem?_insideDebugFrom, List.getElem?_append_right (Nat.le_refl _),
    Nat.sub_self, List.take_left]
  rfl

/-- Another line that acts on the debug blocks in the same way leaves the depth as it is. -/
theorem foldl_debugDepth_set {new : Line} {index : Nat} {lines : List Line}
    (same : ∀ old, lines[index]? = some old →
      ∀ depth, new.debugDepth depth = old.debugDepth depth)
    (depth : Nat) :
    (lines.set index new).foldl debugDepth depth = lines.foldl debugDepth depth := by
  induction lines generalizing index depth with
  | nil => rfl
  | cons line rest ih =>
      cases index with
      | zero =>
          rw [List.set_cons_zero, List.foldl_cons, List.foldl_cons, same line rfl]
      | succ index =>
          rw [List.set_cons_succ, List.foldl_cons, List.foldl_cons]
          exact ih same _

theorem depthAfter_take_set {new : Line} {index : Nat} {lines : List Line}
    (same : ∀ old, lines[index]? = some old →
      ∀ depth, new.debugDepth depth = old.debugDepth depth)
    (place : Nat) :
    depthAfter ((lines.set index new).take place) = depthAfter (lines.take place) := by
  rw [List.take_set]
  apply foldl_debugDepth_set
  intro old listed
  rw [List.getElem?_take] at listed
  split at listed
  · exact same old listed
  · cases listed

end Line

end Precommit
