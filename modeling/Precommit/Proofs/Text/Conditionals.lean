import Mathlib.Logic.ExistsUnique
import Precommit.Proofs.Text.DebugNesting

/-!
# Blocks under other conditions

A block may be opened under any condition, and a closing line closes the block that was opened
last. Only debug blocks are counted when they are opened, but every closing line is counted. So a
line of well nested lines that is marked is inside of a debug block, and the marks of a debug
block last until a block under another condition is closed in it. All marks are right exactly if
no debug block has a block under another condition in it (`insideDebug_wellNested`).
-/

namespace Precommit

namespace Line

/-- The line opens a block under some condition. -/
def opensConditional (line : Line) : Bool :=
  "#if ".toList.isPrefixOf (Text.trim line)

/-- Lines that close every block that they open, under whatever condition, and no others. -/
inductive WellNested : List Line → Prop
  | nil : WellNested []
  | single {line : Line} (opens : line.opensConditional = false)
      (closes : line.closesDebug = false) : WellNested [line]
  | append {first second : List Line} (left : WellNested first) (right : WellNested second) :
      WellNested (first ++ second)
  | block {opening closing : Line} {inner : List Line} (opens : opening.opensConditional = true)
      (within : WellNested inner) (closes : closing.closesDebug = true) :
      WellNested (opening :: (inner ++ [closing]))

/--
After the lines `before` comes the opening line of a debug block, and after the lines `inner` of
the block the closing line that matches it.
-/
def HasDebugBlock (lines before inner : List Line) : Prop :=
  ∃ opening closing after, lines = before ++ opening :: (inner ++ closing :: after) ∧
    opening.opensDebug = true ∧ WellNested inner ∧ closing.closesDebug = true

/-- The opening line of some debug block is before the place, and its closing line is not. -/
def InDebugBlock (lines : List Line) (index : Nat) : Prop :=
  ∃ before inner, HasDebugBlock lines before inner ∧
    before.length < index ∧ index ≤ before.length + 1 + inner.length

variable {line : Line} {lines before inner : List Line}

theorem opensConditional_of_opensDebug (opens : line.opensDebug = true) :
    line.opensConditional = true := by
  rw [opensDebug, decide_eq_true_eq] at opens
  rw [opensConditional, opens]
  rfl

theorem opensConditional_of_closesDebug (closes : line.closesDebug = true) :
    line.opensConditional = false := by
  rw [closesDebug, decide_eq_true_eq] at closes
  rw [opensConditional, closes]
  rfl

theorem not_closesDebug_of_opensConditional (opens : line.opensConditional = true) :
    line.closesDebug = false := by
  cases closes : line.closesDebug with
  | false => rfl
  | true =>
      rw [opensConditional_of_closesDebug closes] at opens
      cases opens

theorem not_opensDebug_of_closesDebug (closes : line.closesDebug = true) :
    line.opensDebug = false := by
  cases opens : line.opensDebug with
  | false => rfl
  | true =>
      rw [not_closesDebug_of_opensDebug opens] at closes
      cases closes

theorem ne_of_opens_of_closes {opening closing : Line} (opens : opening.opensConditional = true)
    (closes : closing.closesDebug = true) : opening ≠ closing := by
  rintro rfl
  rw [opensConditional_of_closesDebug closes] at opens
  cases opens

theorem countP_opensDebug_le (lines : List Line) :
    lines.countP opensDebug ≤ lines.countP opensConditional :=
  List.countP_mono_left fun _ _ => opensConditional_of_opensDebug

/-- If some block is opened under another condition, more blocks are opened than debug blocks. -/
theorem countP_opensDebug_lt {other : Line} (listed : other ∈ lines)
    (opens : other.opensConditional = true) (notDebug : other.opensDebug = false) :
    lines.countP opensDebug < lines.countP opensConditional := by
  rcases List.append_of_mem listed with ⟨earlier, later, rfl⟩
  have before := countP_opensDebug_le earlier
  have after := countP_opensDebug_le later
  simp only [List.countP_append, List.countP_cons, opens, notDebug]
  grind

/-! ### Counting in well nested lines -/

/-- From the start of well nested lines, no more blocks are closed than opened. -/
theorem WellNested.countP_take (nested : WellNested lines) (count : Nat) :
    (lines.take count).countP closesDebug ≤ (lines.take count).countP opensConditional := by
  induction nested generalizing count with
  | nil => simp
  | single opens closes => cases count <;> simp [closes]
  | append _ _ ihFirst ihSecond =>
      simp only [List.take_append, List.countP_append]
      exact Nat.add_le_add (ihFirst _) (ihSecond _)
  | @block opening closing inner opens _ closes ih =>
      cases count with
      | zero => simp
      | succ count =>
          have openingCloses := not_closesDebug_of_opensConditional opens
          have last : ([closing].take (count - inner.length)).countP closesDebug ≤ 1 :=
            Nat.le_trans List.countP_le_length (List.length_take_le' _ _)
          have within := ih count
          simp only [List.take_succ_cons, List.take_append, List.countP_cons,
            List.countP_append, opens, openingCloses]
          grind

/-- To the end of well nested lines, no more blocks are opened than closed. -/
theorem WellNested.countP_drop (nested : WellNested lines) (count : Nat) :
    (lines.drop count).countP opensConditional ≤ (lines.drop count).countP closesDebug := by
  induction nested generalizing count with
  | nil => simp
  | single opens closes => cases count <;> simp [opens]
  | append _ _ ihFirst ihSecond =>
      simp only [List.drop_append, List.countP_append]
      exact Nat.add_le_add (ihFirst _) (ihSecond _)
  | @block opening closing inner opens _ closes ih =>
      have closingOpens := opensConditional_of_closesDebug closes
      cases count with
      | zero =>
          have within := ih 0
          simp only [List.drop_zero] at within
          simp only [List.drop_zero, List.countP_cons, List.countP_append, opens, closes,
            closingOpens]
          grind
      | succ count =>
          have within := ih count
          have last : ([closing].drop (count - inner.length)).countP opensConditional = 0 := by
            rw [List.countP_eq_zero]
            intro line member
            obtain rfl := List.mem_singleton.1 (List.mem_of_mem_drop member)
            simp [closingOpens]
          simp only [List.drop_succ_cons, List.drop_append, List.countP_append, last]
          omega

/-- Lines that open at most as many blocks as they close, and one closing line more, do not end
inside of well nested lines. -/
theorem WellNested.prefix_of_append_eq {part rest after : List Line} {closing closing' : Line}
    (nested : WellNested inner) (closes : closing.closesDebug = true)
    (balanced : part.countP opensConditional ≤ part.countP closesDebug)
    (same : part ++ closing :: rest = inner ++ closing' :: after) : inner <+: part := by
  rcases List.append_eq_append_iff.1 same with ⟨more, whole, behind⟩ | ⟨more, whole, _⟩
  · cases more with
    | nil => exact ⟨[], by rw [whole, List.append_nil, List.append_nil]⟩
    | cons first more =>
        obtain rfl : closing = first := (List.cons.inj behind).1
        have opens := opensConditional_of_closesDebug closes
        have taken : inner.take (part.length + 1) = part ++ [closing] := by
          rw [whole, List.take_length_add_append]
          rfl
        have ahead := nested.countP_take (part.length + 1)
        rw [taken, List.countP_append, List.countP_append, List.countP_singleton,
          List.countP_singleton, closes, opens] at ahead
        grind
  · exact ⟨more, whole.symm⟩

/-! ### Matching lines -/

/-- Every line of well nested lines that opens a block has a closing line that matches it. -/
theorem WellNested.exists_closing (nested : WellNested lines) {opening : Line} {rest : List Line}
    (split : lines = before ++ opening :: rest) (opens : opening.opensConditional = true) :
    ∃ inner closing after, rest = inner ++ closing :: after ∧ WellNested inner ∧
      closing.closesDebug = true := by
  induction nested generalizing before rest with
  | nil => simp at split
  | single notOpens =>
      have listed : opening ∈ before ++ opening :: rest := by simp
      rw [← split, List.mem_singleton] at listed
      rw [listed, notOpens] at opens
      cases opens
  | @append first second _ _ ihFirst ihSecond =>
      rcases List.append_eq_append_iff.1 split with ⟨more, _, behind⟩ | ⟨more, whole, behind⟩
      · exact ihSecond behind
      · cases more with
        | nil => exact @ihSecond [] _ behind.symm
        | cons line more =>
            obtain ⟨rfl, rfl⟩ := List.cons.inj behind
            rcases ihFirst whole with ⟨inner, closing, after, rfl, found⟩
            exact ⟨inner, closing, after ++ second, by simp, found⟩
  | @block line closing inner _ within closes ih =>
      cases before with
      | nil =>
          obtain ⟨rfl, rfl⟩ := List.cons.inj split
          exact ⟨inner, closing, [], rfl, within, closes⟩
      | cons line' before =>
          have split := (List.cons.inj split).2
          have notClosing := ne_of_opens_of_closes opens closes
          rcases List.append_eq_append_iff.1 split with ⟨more, _, last⟩ | ⟨more, whole, last⟩
          · have listed : opening ∈ more ++ opening :: rest := by simp
            rw [← last, List.mem_singleton] at listed
            exact absurd listed notClosing
          · cases more with
            | nil => exact absurd (List.cons.inj last).1 notClosing
            | cons line'' more =>
                obtain ⟨rfl, rfl⟩ := List.cons.inj last
                rcases ih whole with ⟨inner', closing', after, rfl, found⟩
                exact ⟨inner', closing', after ++ [closing], by simp, found⟩

/-- The lines of a debug block are those up to the closing line, for whichever it is taken. -/
theorem HasDebugBlock.unique {inner' : List Line} (block : HasDebugBlock lines before inner)
    (block' : HasDebugBlock lines before inner') : inner = inner' := by
  rcases block with ⟨opening, closing, after, rfl, _, nested, closes⟩
  rcases block' with ⟨opening', closing', after', same, _, nested', closes'⟩
  have same := (List.cons.inj (List.append_cancel_left same)).2
  have balanced := nested.countP_drop 0
  have balanced' := nested'.countP_drop 0
  rw [List.drop_zero] at balanced balanced'
  have begins := nested'.prefix_of_append_eq closes balanced same
  have begins' := nested.prefix_of_append_eq closes' balanced' same.symm
  exact begins'.eq_of_length_le begins.length_le

/-- A debug block that is opened in another one is part of it. -/
theorem HasDebugBlock.subset {before' inner' : List Line} (block : HasDebugBlock lines before inner)
    (block' : HasDebugBlock lines before' inner') (later : before'.length < before.length)
    (within : before.length ≤ before'.length + 1 + inner'.length) : inner ⊆ inner' := by
  rcases block with ⟨opening, closing, after, rfl, opens, nested, _⟩
  rcases block' with ⟨opening', closing', after', same, _, nested', closes'⟩
  have opensConditional := opensConditional_of_opensDebug opens
  have notClosing := ne_of_opens_of_closes opensConditional closes'
  rcases List.append_eq_append_iff.1 same with ⟨more, whole, _⟩ | ⟨more, whole, inside⟩
  · rw [whole, List.length_append] at later
    omega
  cases more with
  | nil =>
      rw [whole, List.append_nil] at later
      omega
  | cons line more =>
      rw [whole, List.length_append, List.length_cons] at within
      have inside := (List.cons.inj inside).2
      -- The opening line lies before the closing line of the outer block.
      rcases List.append_eq_append_iff.1 inside with ⟨rest, whole, behind⟩ | ⟨rest, whole, behind⟩
      · cases rest with
        | nil => exact absurd (List.cons.inj behind).1.symm notClosing
        | cons line' rest =>
            rw [whole, List.length_append, List.length_cons] at within
            omega
      · cases rest with
        | nil => exact absurd (List.cons.inj behind).1 notClosing
        | cons line' rest =>
            obtain ⟨rfl, tails⟩ := List.cons.inj behind
            have dropped := nested'.countP_drop more.length
            rw [whole, List.drop_left, List.countP_cons, List.countP_cons, opensConditional,
              not_closesDebug_of_opensDebug opens] at dropped
            have balanced : rest.countP Line.opensConditional ≤ rest.countP closesDebug := by
              grind
            have begins := nested.prefix_of_append_eq closes' balanced tails.symm
            rw [whole]
            exact List.Subset.trans begins.subset fun found member => by simp [member]

/-! ### Marks -/

/-- What is open after some of the lines was opened by a line whose closing line is not yet among
them. -/
theorem WellNested.inDebugBlock (nested : WellNested lines) {index : Nat}
    (bound : index ≤ lines.length) (isOpen : DebugOpen (lines.take index)) :
    InDebugBlock lines index := by
  rcases debugOpen_iff_unmatched.1 isOpen with ⟨before, opening, later, taken, opens, matched⟩
  have split : lines = before ++ opening :: (later ++ lines.drop index) := by
    have parts := List.take_append_drop index lines
    rw [taken] at parts
    simpa using parts.symm
  have length := congrArg List.length taken
  rw [List.length_take_of_le bound, List.length_append, List.length_cons] at length
  rcases nested.exists_closing split (opensConditional_of_opensDebug opens) with
    ⟨inner, closing, after, rest, within, closes⟩
  refine ⟨before, inner, ⟨opening, closing, after, by rw [split, rest], opens, within, closes⟩,
    by omega, ?_⟩
  -- Otherwise the lines after the opening one close more than they open.
  apply Nat.le_of_not_lt
  intro short
  have reaches : inner ++ [closing] <+: later := by
    have begins : inner ++ [closing] <+: later ++ lines.drop index := by
      rw [rest]
      exact ⟨after, by simp⟩
    apply List.prefix_of_prefix_length_le begins (List.prefix_append _ _)
    rw [List.length_append, List.length_singleton]
    omega
  have ahead := matched _ reaches
  have balanced := within.countP_drop 0
  have fewer := countP_opensDebug_le inner
  rw [List.countP_append, List.countP_append, List.countP_singleton, List.countP_singleton,
    closes] at ahead
  rw [List.drop_zero] at balanced
  have notOpens := not_opensDebug_of_closesDebug closes
  grind

theorem HasDebugBlock.inDebugBlock (block : HasDebugBlock lines before inner) {count : Nat}
    (le : count ≤ inner.length) : InDebugBlock lines (before.length + 1 + count) :=
  ⟨before, inner, block, by omega, by omega⟩

theorem HasDebugBlock.take_eq (block : HasDebugBlock lines before inner) {count : Nat}
    (le : count ≤ inner.length) :
    before.length + 1 + count < lines.length ∧
      ∃ opening, opening.opensDebug = true ∧
        lines.take (before.length + 1 + count) = before ++ opening :: inner.take count := by
  rcases block with ⟨opening, closing, after, rfl, opens, _⟩
  refine ⟨?_, opening, opens, ?_⟩
  · simp only [List.length_append, List.length_cons]
    omega
  · rw [Nat.add_assoc, List.take_length_add_append, Nat.add_comm 1, List.take_succ_cons,
      List.take_append_of_le_length le]

/-- As long as no other block has been opened in a debug block, its lines are marked. -/
theorem HasDebugBlock.debugOpen (block : HasDebugBlock lines before inner) {count : Nat}
    (le : count ≤ inner.length)
    (onlyDebug : ∀ line ∈ inner.take count, line.opensConditional = true → line.opensDebug = true) :
    DebugOpen (lines.take (before.length + 1 + count)) := by
  rcases block.take_eq le with ⟨_, opening, opens, taken⟩
  rcases block with ⟨_, _, _, _, _, nested, _⟩
  refine ⟨before, opening :: inner.take count, taken, ?_⟩
  have balanced := nested.countP_take count
  have same := List.countP_mono_left onlyDebug
  rw [List.countP_cons, List.countP_cons, opens, not_closesDebug_of_opensDebug opens]
  grind

/-- If a block under another condition is in an outermost debug block, the closing line of the
debug block is not marked. -/
theorem HasDebugBlock.not_debugOpen (block : HasDebugBlock lines before inner)
    (outermost : ¬DebugOpen before) {other : Line} (listed : other ∈ inner)
    (opens : other.opensConditional = true) (notDebug : other.opensDebug = false) :
    ¬DebugOpen (lines.take (before.length + 1 + inner.length)) := by
  rcases block.take_eq (Nat.le_refl inner.length) with ⟨_, opening, openingOpens, taken⟩
  rcases block with ⟨_, _, _, _, _, nested, _⟩
  have noneBefore : depthAfter before = 0 := by
    have notPositive := mt (depthAfter_pos_iff before).1 outermost
    omega
  have depth : depthAfter (before ++ opening :: inner) = inner.foldl debugDepth 1 := by
    rw [depthAfter, List.foldl_append, ← depthAfter, noneBefore, List.foldl_cons,
      debugDepth_of_opensDebug 0 openingOpens]
  rw [taken, List.take_length, ← depthAfter_pos_iff, depth, foldl_debugDepth_pos_iff]
  rintro (⟨earlier, later, rfl, more⟩ | more)
  · have balanced := nested.countP_drop earlier.length
    have fewer := countP_opensDebug_le later
    rw [List.drop_left] at balanced
    omega
  · have balanced := nested.countP_drop 0
    have fewer := countP_opensDebug_lt listed opens notDebug
    rw [List.drop_zero] at balanced
    omega

/-- A debug block with a block under another condition in it has a line that is not marked, or
lies in a debug block that has. -/
theorem WellNested.exists_unmarked (nested : WellNested lines)
    (block : HasDebugBlock lines before inner) {other : Line} (listed : other ∈ inner)
    (opens : other.opensConditional = true) (notDebug : other.opensDebug = false) :
    ∃ index < lines.length, InDebugBlock lines index ∧ ¬DebugOpen (lines.take index) := by
  induction length : before.length using Nat.strongRecOn generalizing before inner with
  | ind _ ih =>
      rcases block.take_eq (Nat.le_refl inner.length) with ⟨bound, _⟩
      by_cases outermost : DebugOpen before
      · have opened : DebugOpen (lines.take before.length) := by
          rcases block with ⟨_, _, _, rfl, _⟩
          rwa [List.take_left]
        rcases nested.inDebugBlock (by omega) opened with ⟨before', inner', outer, later, within⟩
        have listed' := block.subset outer later within listed
        exact ih before'.length (by omega) outer listed' rfl
      · exact ⟨_, bound, block.inDebugBlock (Nat.le_refl _),
          block.not_debugOpen outermost listed opens notDebug⟩

/--
In well nested lines, every line that opens a debug block has one closing line that matches it.
A line that is marked comes after the opening line of a debug block and not after its closing
line. A line of a debug block, or its closing line, is marked if no block under another condition
is opened in the debug block before it. The marks tell for all lines whether they are in a debug
block exactly if no debug block has a block under another condition in it.
-/
theorem insideDebug_wellNested (nested : WellNested lines) :
    (∀ before opening rest, lines = before ++ opening :: rest → opening.opensDebug = true →
      ∃! inner, HasDebugBlock lines before inner) ∧
    (∀ index < lines.length, (insideDebug lines)[index]? = some true → InDebugBlock lines index) ∧
    (∀ before inner, HasDebugBlock lines before inner → ∀ count ≤ inner.length,
      (∀ line ∈ inner.take count, line.opensConditional = true → line.opensDebug = true) →
        (insideDebug lines)[before.length + 1 + count]? = some true) ∧
    ((∀ index < lines.length,
        (insideDebug lines)[index]? = some true ↔ InDebugBlock lines index) ↔
      ∀ before inner, HasDebugBlock lines before inner →
        ∀ line ∈ inner, line.opensConditional = true → line.opensDebug = true) := by
  have marked {index : Nat} (bound : index < lines.length)
      (isMarked : (insideDebug lines)[index]? = some true) : InDebugBlock lines index :=
    nested.inDebugBlock (Nat.le_of_lt bound) ((getElem?_insideDebug_eq_true_iff bound).1 isMarked)
  have clean {before inner : List Line} (block : HasDebugBlock lines before inner) {count : Nat}
      (le : count ≤ inner.length)
      (onlyDebug : ∀ line ∈ inner.take count,
        line.opensConditional = true → line.opensDebug = true) :
      (insideDebug lines)[before.length + 1 + count]? = some true :=
    (getElem?_insideDebug_eq_true_iff (block.take_eq le).1).2 (block.debugOpen le onlyDebug)
  refine ⟨?_, fun index => marked, fun before inner block count => clean block, ?_, ?_⟩
  · intro before opening rest split opens
    rcases nested.exists_closing split (opensConditional_of_opensDebug opens) with
      ⟨inner, closing, after, rfl, within, closes⟩
    have block : HasDebugBlock lines before inner :=
      ⟨opening, closing, after, split, opens, within, closes⟩
    exact ⟨inner, block, fun inner' block' => block'.unique block⟩
  · intro agree before inner block line listed opens
    cases isDebug : line.opensDebug with
    | true => rfl
    | false =>
        rcases nested.exists_unmarked block listed opens isDebug with
          ⟨index, bound, inBlock, notOpen⟩
        have isMarked := (agree index bound).2 inBlock
        exact absurd ((getElem?_insideDebug_eq_true_iff bound).1 isMarked) notOpen
  · intro onlyDebug index bound
    refine ⟨marked bound, ?_⟩
    rintro ⟨before, inner, block, later, within⟩
    have place : before.length + 1 + (index - (before.length + 1)) = index := by omega
    rw [← place]
    apply clean block (by omega)
    exact fun line member => onlyDebug before inner block line (List.mem_of_mem_take member)

/-- A debug block inside of another one, in a block under another condition. -/
theorem insideDebug_wellNested_debug :
    let system : Line := "#if os(iOS)".toList
    let opening : Line := " #if DEBUG".toList
    let closing : Line := "#endif".toList
    let call : Line := "print(a)".toList
    let lines := [system, opening, opening, closing, call, closing, closing]
    WellNested lines ∧ (insideDebug lines)[5]? = some true ∧ InDebugBlock lines 5 := by
  intro system opening closing call lines
  have opensSystem : system.opensConditional = true := by decide +kernel
  have opens : opening.opensDebug = true := by decide +kernel
  have opens' := opensConditional_of_opensDebug opens
  have closes : closing.closesDebug = true := by decide +kernel
  have plain : WellNested [call] := .single (by decide +kernel) (by decide +kernel)
  have within : WellNested [opening, closing, call] := .append (.block opens' .nil closes) plain
  have nested : WellNested lines := .block opensSystem (.block opens' within closes) closes
  have block : HasDebugBlock lines [system] [opening, closing, call] :=
    ⟨opening, closing, [closing], rfl, opens, within, closes⟩
  have onlyDebug : ∀ line ∈ [opening, closing, call].take 3,
      line.opensConditional = true → line.opensDebug = true := by
    decide +kernel
  have results := insideDebug_wellNested nested
  have isMarked := results.2.2.1 _ _ block 3 (Nat.le_refl 3) onlyDebug
  exact ⟨nested, isMarked, results.2.1 5 (by decide) isMarked⟩

/-- After a block under another condition, the lines of a debug block are not marked any more. -/
theorem insideDebug_other_condition :
    let opening : Line := "#if DEBUG".toList
    let system : Line := "#if os(iOS)".toList
    let closing : Line := "#endif".toList
    let call : Line := "print(a)".toList
    let lines := [opening, system, closing, call, closing]
    WellNested lines ∧ insideDebug lines = [false, true, true, false, false] ∧
      InDebugBlock lines 3 ∧ InDebugBlock lines 4 := by
  intro opening system closing call lines
  have opens : opening.opensDebug = true := by decide +kernel
  have opensSystem : system.opensConditional = true := by decide +kernel
  have closes : closing.closesDebug = true := by decide +kernel
  have plain : WellNested [call] := .single (by decide +kernel) (by decide +kernel)
  have within : WellNested [system, closing, call] :=
    .append (.block opensSystem .nil closes) plain
  have block : HasDebugBlock lines [] [system, closing, call] :=
    ⟨opening, closing, [], rfl, opens, within, closes⟩
  refine ⟨.block (opensConditional_of_opensDebug opens) within closes, by decide +kernel, ?_, ?_⟩
  · have third : 2 ≤ [system, closing, call].length := by decide
    exact block.inDebugBlock third
  · have last : 3 ≤ [system, closing, call].length := by decide
    exact block.inDebugBlock last

end Line

end Precommit
