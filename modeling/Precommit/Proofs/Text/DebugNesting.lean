import Precommit.Proofs.Text.DebugBlock

/-!
# Matching of debug blocks

A line is inside a debug block exactly if some opening line before it is still unmatched: read
on from there, the lines so far never have more closing than opening ones
(`insideDebug_iff_unmatched`). Closing lines without an opening one before them do not touch
the blocks that are opened later, and a bracketed stretch of lines leaves all others as they
are.
-/

namespace Precommit

namespace Line

/-- A stretch of lines that closes every block that it opens, and no others. -/
inductive Bracketed : List Line → Prop
  | nil : Bracketed []
  | single {line : Line} (opens : line.opensDebug = false) (closes : line.closesDebug = false) :
      Bracketed [line]
  | append {first second : List Line} (left : Bracketed first) (right : Bracketed second) :
      Bracketed (first ++ second)
  | block {opening closing : Line} {inner : List Line} (opens : opening.opensDebug = true)
      (within : Bracketed inner) (closes : closing.closesDebug = true) :
      Bracketed (opening :: (inner ++ [closing]))

variable {lines before after : List Line}

/-! ### Lines one after the other -/

theorem length_insideDebugFrom (depth : Nat) (lines : List Line) :
    (insideDebugFrom depth lines).length = lines.length := by
  induction lines generalizing depth with
  | nil => rfl
  | cons line rest ih => simp [insideDebugFrom, ih]

theorem insideDebugFrom_append (depth : Nat) (before after : List Line) :
    insideDebugFrom depth (before ++ after) =
      insideDebugFrom depth before ++ insideDebugFrom (before.foldl debugDepth depth) after := by
  induction before generalizing depth with
  | nil => rfl
  | cons line rest ih => simp [insideDebugFrom, ih]

theorem insideDebug_append (before after : List Line) :
    insideDebug (before ++ after) =
      insideDebug before ++ insideDebugFrom (depthAfter before) after :=
  insideDebugFrom_append 0 before after

theorem debugDepth_mono {depth depth' : Nat} (le : depth ≤ depth') (line : Line) :
    line.debugDepth depth ≤ line.debugDepth depth' := by
  unfold debugDepth
  dsimp only
  split
  · omega
  · split <;> omega

theorem Bracketed.foldl_debugDepth {block : List Line} (bracketed : Bracketed block)
    (depth : Nat) : block.foldl debugDepth depth = depth := by
  induction bracketed generalizing depth with
  | nil => rfl
  | single opens closes => simp [debugDepth_of_neither depth opens closes]
  | append _ _ ihFirst ihSecond => simp [ihFirst, ihSecond]
  | block opens _ closes ih =>
      simp [debugDepth_of_opensDebug depth opens, ih, debugDepth_of_closesDebug _ closes]

/-! ### The opening line that is unmatched -/

/-- If more is opened than closed from somewhere on, then so it is from an opening line on after
which no closing line is one too many. -/
theorem debugOpen_iff_unmatched :
    DebugOpen lines ↔ ∃ earlier opener later, lines = earlier ++ opener :: later ∧
      opener.opensDebug = true ∧
        ∀ part, part <+: later → part.countP closesDebug ≤ part.countP opensDebug := by
  constructor
  · intro isOpen
    induction lines with
    | nil => exact absurd isOpen not_debugOpen_nil
    | cons line rest ih =>
        by_cases restOpen : DebugOpen rest
        · rcases ih restOpen with ⟨earlier, opener, later, rfl, opens, matched⟩
          exact ⟨line :: earlier, opener, later, rfl, opens, matched⟩
        · -- Nothing is left open from a later line on, so the first line is the one.
          have whole := (debugOpen_cons_iff.1 isOpen).resolve_left restOpen
          have rest_le : rest.countP opensDebug ≤ rest.countP closesDebug := by
            apply Nat.le_of_not_lt
            intro more
            exact restOpen (debugOpen_of_countP_lt more)
          have opens : line.opensDebug = true := by
            cases opens : line.opensDebug with
            | true => rfl
            | false =>
                simp only [List.countP_cons, opens] at whole
                grind
          have closes := not_closesDebug_of_opensDebug opens
          simp only [List.countP_cons, opens, closes] at whole
          refine ⟨[], line, rest, rfl, opens, ?_⟩
          rintro part ⟨others, rfl⟩
          have others_le : others.countP opensDebug ≤ others.countP closesDebug := by
            apply Nat.le_of_not_lt
            intro more
            exact restOpen ⟨part, others, rfl, more⟩
          simp only [List.countP_append] at rest_le whole
          grind
  · rintro ⟨earlier, opener, later, rfl, opens, matched⟩
    refine ⟨earlier, opener :: later, rfl, ?_⟩
    have closes := not_closesDebug_of_opensDebug opens
    have more := matched later (List.prefix_refl later)
    simp only [List.countP_cons, opens, closes]
    grind

variable {index : Nat}

theorem debugOpen_take_iff :
    DebugOpen (lines.take index) ↔ ∃ start ≤ index,
      (lines.extract start index).countP closesDebug <
        (lines.extract start index).countP opensDebug := by
  simp only [List.extract, ← List.drop_take]
  constructor
  · rintro ⟨earlier, later, split, more⟩
    have length := congrArg List.length split
    simp only [List.length_append, List.length_take] at length
    refine ⟨earlier.length, by omega, ?_⟩
    rwa [split, List.drop_left]
  · rintro ⟨start, _, more⟩
    exact ⟨_, _, (List.take_append_drop start _).symm, more⟩

theorem debugOpen_take_iff_unmatched (bound : index ≤ lines.length) :
    DebugOpen (lines.take index) ↔ ∃ opener < index,
      lines[opener]?.map Text.trim = some "#if DEBUG".toList ∧
        ∀ last, opener < last → last ≤ index →
          (lines.extract (opener + 1) last).countP closesDebug ≤
            (lines.extract (opener + 1) last).countP opensDebug := by
  rw [debugOpen_iff_unmatched]
  constructor
  · rintro ⟨earlier, opener, later, split, opens, matched⟩
    have length := congrArg List.length split
    simp only [List.length_append, List.length_take, List.length_cons] at length
    have listed : lines[earlier.length]? = some opener := by
      have taken := congrArg (·[earlier.length]?) split
      simpa [List.getElem?_take, show earlier.length < index by omega] using taken
    refine ⟨earlier.length, by omega, ?_, ?_⟩
    · rw [listed]
      exact congrArg some (of_decide_eq_true opens)
    · intro last _ last_le
      apply matched
      -- Up to `last`, the lines after the opening one are a beginning of those up to `index`.
      have later_eq : later = (lines.take index).drop (earlier.length + 1) := by
        rw [split, ← List.drop_drop, List.drop_left]
        rfl
      rw [later_eq, List.drop_take, List.extract]
      apply List.take_prefix_take_left
      omega
  · rintro ⟨opener, opener_lt, opens, matched⟩
    rcases Option.map_eq_some_iff.1 opens with ⟨line, listed, opens⟩
    rcases List.getElem?_eq_some_iff.1 listed with ⟨opener_lt_length, rfl⟩
    refine ⟨lines.take opener, lines[opener], lines.extract (opener + 1) index, ?_, ?_, ?_⟩
    · have opener_lt_take : opener < (lines.take index).length := by
        rw [List.length_take]
        omega
      have parts := List.take_append_drop opener (lines.take index)
      rw [List.drop_eq_getElem_cons opener_lt_take, List.take_take, List.getElem_take,
        Nat.min_eq_left (Nat.le_of_lt opener_lt)] at parts
      rw [List.extract, ← List.drop_take]
      exact parts.symm
    · exact decide_eq_true opens
    · rintro part beginning
      have length := beginning.length_le
      simp only [List.extract, List.length_take, List.length_drop] at length
      have part_eq : part = lines.extract (opener + 1) (opener + 1 + part.length) := by
        rw [List.prefix_iff_eq_take.1 beginning]
        simp [List.extract, List.take_take]
      rw [part_eq]
      apply matched <;> omega

theorem getElem?_insideDebug_eq_true_iff (bound : index < lines.length) :
    (insideDebug lines)[index]? = some true ↔ DebugOpen (lines.take index) := by
  rw [insideDebug, getElem?_insideDebugFrom, List.getElem?_eq_getElem bound,
    ← depthAfter_pos_iff, depthAfter]
  simp

/-! ### Lines in front of others, and lines between others -/

/-- Lines in front of others keep open what is open without them. -/
theorem getElem?_insideDebug_append (isInside : (insideDebug after)[index]? = some true) :
    (insideDebug (before ++ after))[before.length + index]? = some true := by
  rw [insideDebug_append,
    List.getElem?_append_right (by simp [insideDebug, length_insideDebugFrom]), insideDebug,
    length_insideDebugFrom, Nat.add_sub_cancel_left, getElem?_insideDebugFrom]
  rw [insideDebug, getElem?_insideDebugFrom] at isInside
  rcases Option.map_eq_some_iff.1 isInside with ⟨line, listed, isOpen⟩
  rw [decide_eq_true_eq] at isOpen
  have stillOpen : 0 < (after.take index).foldl debugDepth (depthAfter before) :=
    (foldl_debugDepth_pos_iff _ _).2 (.inl ((depthAfter_pos_iff _).1 isOpen))
  rw [listed, Option.map_some, decide_eq_true stillOpen]

/-- Behind lines that leave nothing open, lines are read as if they came first. -/
theorem insideDebug_append_of_not_open (closed : ¬DebugOpen before) (after : List Line) :
    insideDebug (before ++ after) = insideDebug before ++ insideDebug after := by
  have depth : depthAfter before = 0 := by
    have notPositive := mt (depthAfter_pos_iff before).1 closed
    omega
  rw [insideDebug_append, depth]
  rfl

theorem insideDebug_insert {block : List Line} (bracketed : Bracketed block)
    (before after : List Line) :
    ∃ within : List Bool, within.length = block.length ∧
      insideDebug (before ++ block ++ after) =
        (insideDebug (before ++ after)).take before.length ++ within ++
          (insideDebug (before ++ after)).drop before.length := by
  have length : (insideDebug before).length = before.length := length_insideDebugFrom 0 before
  have depth : depthAfter (before ++ block) = depthAfter before := by
    rw [depthAfter, List.foldl_append, bracketed.foldl_debugDepth]
    rfl
  refine ⟨insideDebugFrom (depthAfter before) block, length_insideDebugFrom _ _, ?_⟩
  rw [insideDebug_append, depth, insideDebug_append, insideDebug_append]
  rw [List.take_left' length, List.drop_left' length]

/--
There is a flag for every line. It is set exactly if an opening line before it is unmatched, so
that from this line on there are never more closing than opening ones in between, and exactly
if from some line on more blocks are opened than closed. Lines in front of others never cancel
what is opened later, and have no effect on it if they leave nothing open themselves. Around
an inserted stretch of bracketed lines all flags stay as they are.
-/
theorem insideDebug_iff_unmatched (lines : List Line) :
    (insideDebug lines).length = lines.length ∧
    (∀ index < lines.length,
      ((insideDebug lines)[index]? = some true ↔
        ∃ opener < index, lines[opener]?.map Text.trim = some "#if DEBUG".toList ∧
          ∀ last, opener < last → last ≤ index →
            (lines.extract (opener + 1) last).countP closesDebug ≤
              (lines.extract (opener + 1) last).countP opensDebug) ∧
      ((insideDebug lines)[index]? = some true ↔
        ∃ start ≤ index, (lines.extract start index).countP closesDebug <
          (lines.extract start index).countP opensDebug)) ∧
    ∀ before after, lines = before ++ after →
      (∀ index : Nat, (insideDebug after)[index]? = some true →
        (insideDebug lines)[before.length + index]? = some true) ∧
      (¬DebugOpen before → insideDebug lines = insideDebug before ++ insideDebug after) ∧
      ∀ block, Bracketed block → ∃ within : List Bool, within.length = block.length ∧
        insideDebug (before ++ block ++ after) =
          (insideDebug lines).take before.length ++ within ++
            (insideDebug lines).drop before.length := by
  refine ⟨length_insideDebugFrom 0 lines, ?_, ?_⟩
  · intro index bound
    rw [getElem?_insideDebug_eq_true_iff bound]
    exact ⟨debugOpen_take_iff_unmatched (Nat.le_of_lt bound), debugOpen_take_iff⟩
  · rintro before after rfl
    refine ⟨?_, ?_, ?_⟩
    · intro index isInside
      exact getElem?_insideDebug_append isInside
    · intro closed
      exact insideDebug_append_of_not_open closed after
    · intro block bracketed
      exact insideDebug_insert bracketed before after

/-- A surplus closing line does not cancel the opening line after it, nor does a nested block. -/
theorem insideDebug_iff_unmatched_surplus :
    let opening : Line := "#if DEBUG".toList
    let closing : Line := "  #endif".toList
    let call : Line := "print(a)".toList
    (insideDebug ([closing] ++ [opening, call]))[1 + 1]? = some true ∧
      insideDebug ([closing] ++ [opening, call]) = [false] ++ [false, true] ∧
      ∃ within : List Bool, within.length = 2 ∧
        insideDebug ([closing, opening] ++ [opening, closing] ++ [call]) =
          [false, false] ++ within ++ [true] := by
  intro opening closing call
  have opens : opening.opensDebug = true := by decide +kernel
  have closes : closing.closesDebug = true := by decide +kernel
  have inside : (insideDebug [opening, call])[1]? = some true := by decide +kernel
  have closed : ¬DebugOpen [closing] := by
    rw [← depthAfter_pos_iff]
    decide +kernel
  have flags : insideDebug [closing, opening, call] = [false, false, true] := by decide +kernel
  have surplus := (insideDebug_iff_unmatched [closing, opening, call]).2.2 [closing]
    [opening, call] rfl
  have nested := (insideDebug_iff_unmatched [closing, opening, call]).2.2 [closing, opening]
    [call] rfl
  have bracketed : Bracketed [opening, closing] := .block opens .nil closes
  refine ⟨surplus.1 1 inside, ?_, ?_⟩
  · have alone : insideDebug [opening, call] = [false, true] := by decide +kernel
    rw [← alone]
    exact surplus.2.1 closed
  · have inserted := nested.2.2 [opening, closing] bracketed
    rw [flags] at inserted
    exact inserted

end Line

end Precommit
