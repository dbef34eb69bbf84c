import Precommit.Proofs.CommandLine.Spelling

/-!
# Well-formed command lines

The arguments that are accepted are those that spell options, none of them twice and exactly
one of them a mode, perhaps with a double hyphen behind them. The settings are what these
options say. Arguments that spell options in any other way are refused for what is wrong with
the options together.
-/

namespace Precommit

/-- The two tests of an output path agree. -/
theorem Report.isSome_forPath? (path : String) (result : AuditResult) :
    (forPath? path result).isSome = isOutputPath path := by
  unfold forPath? isOutputPath
  cases hasEnding ".json" path <;> cases hasEnding ".md" path <;> rfl

namespace CommandLine

/-- Arguments that spell options one after the other. -/
def SpellsAll (given : List (OptionName × String)) (arguments : List String) : Prop :=
  ∃ spellings, List.Forall₂ Spells given spellings ∧ arguments = spellings.flatten

/-- Where the files come from; a file without a path is the one with the empty path. -/
def chosenSource (given : List (OptionName × String)) : FileSource :=
  if (given.lookup .staged).isSome then .staged
  else if (given.lookup .all).isSome then .all
  else .file ((given.lookup .file).getD "")

/-- What the options say, given the log level of the environment. -/
def settingsOf (given : List (OptionName × String)) (logLevel : Option String) : Settings where
  source := chosenSource given
  commitMessage := given.lookup .commitMessage
  policyPath := (given.lookup .config).getD defaultPolicyPath
  outputPath := given.lookup .output
  logLevel := ((given.lookup .logLevel).or logLevel).getD defaultLogLevel

/-- The options that say where the files come from. -/
def modes (given : List (OptionName × String)) : List (OptionName × String) :=
  given.filter (·.1.isMode)

variable {given : List (OptionName × String)} {arguments : List String}

theorem SpellsAll.concat (spelled : SpellsAll given arguments) {option : OptionName × String}
    {further : List String} (spells : Spells option further) :
    SpellsAll (given ++ [option]) (arguments ++ further) := by
  rcases spelled with ⟨spellings, spelled, rfl⟩
  refine ⟨spellings ++ [further], List.rel_append spelled (.cons spells .nil), ?_⟩
  simp

section Options

variable {others : List (OptionName × String)}

theorem settingsOf_perm (distinct : (given.map Prod.fst).Nodup) (reordered : given.Perm others)
    (logLevel : Option String) : settingsOf given logLevel = settingsOf others logLevel := by
  simp only [settingsOf, chosenSource, lookup_eq_of_perm distinct reordered]

theorem length_modes_perm (reordered : given.Perm others) :
    (modes given).length = (modes others).length :=
  (reordered.filter _).length_eq

/-- The one mode is the one that is chosen. -/
theorem chosenSource_of_single (distinct : (given.map Prod.fst).Nodup) {name : OptionName}
    {path : String} (single : modes given = [(name, path)]) :
    name = .staged ∧ chosenSource given = .staged ∨ name = .all ∧ chosenSource given = .all ∨
      name = .file ∧ chosenSource given = .file path := by
  have listed : (name, path) ∈ given ∧ name.isMode = true := by
    have member : (name, path) ∈ modes given := by simp [single]
    exact List.mem_filter.1 member
  have found : given.lookup name = some path := (lookup_eq_some_iff_mem distinct).2 listed.1
  have absent {other : OptionName} (isMode : other.isMode = true) (differs : other ≠ name) :
      given.lookup other = none := by
    rw [lookup_eq_none_iff_not_mem, List.mem_map]
    rintro ⟨option, member, rfl⟩
    have kept : option ∈ modes given := List.mem_filter.2 ⟨member, isMode⟩
    rw [single, List.mem_singleton] at kept
    exact differs (congrArg Prod.fst kept)
  unfold chosenSource
  cases name with
  | staged => simp [found]
  | all => simp [found, @absent .staged rfl nofun]
  | file => simp [found, @absent .staged rfl nofun, @absent .all rfl nofun]
  | _ => cases listed.2

end Options

namespace Reader

variable {reader next : Reader} {name : OptionName} {value argument : String}

/-- The arguments spell the options that are taken, the latest first, and none is taken twice. -/
structure AreTaken (given : List (OptionName × String)) (arguments : List String) : Prop where
  distinct : (given.map Prod.fst).Nodup
  spelled : SpellsAll given.reverse arguments

/--
The arguments spell the options taken so far and as much as was read of the one that is pending;
a double hyphen has ended them at most once.
-/
inductive HasRead : Reader → List String → Prop
  | settled {given : List (OptionName × String)} {arguments : List String}
      (taken : AreTaken given arguments) : HasRead { given := given } arguments
  | awaiting {given : List (OptionName × String)} {arguments : List String} {name : OptionName}
      (taken : AreTaken given arguments) (valued : name.takesValue = true) :
      HasRead { given := given, pending := some (name, none) }
        (arguments ++ ["--" ++ name.longName])
  | complete {given : List (OptionName × String)} {arguments further : List String}
      {name : OptionName} {value : String} (taken : AreTaken given arguments)
      (spells : Spells (name, value) further) :
      HasRead { given := given, pending := some (name, some value) } (arguments ++ further)
  | ended {reader : Reader} {arguments : List String} (read : HasRead reader arguments)
      (isOpen : reader.ended = false) :
      HasRead { reader with ended := true } (arguments ++ ["--"])

/-- One more option is taken. -/
theorem AreTaken.take {given' : List (OptionName × String)} (taken : AreTaken given' arguments)
    {further : List String} (spells : Spells (name, value) further)
    (takes : Reader.take { given := given' } name value = .ok next) :
    ∃ given, next = { given := given } ∧ AreTaken given (arguments ++ further) := by
  rcases take_eq_ok_iff.1 takes with ⟨fresh, _, rfl⟩
  refine ⟨(name, value) :: given', rfl, ?_, ?_⟩
  · rw [List.map_cons, List.nodup_cons]
    exact ⟨lookup_eq_none_iff_not_mem.1 fresh, taken.distinct⟩
  · rw [List.reverse_cons]
    exact taken.spelled.concat spells

theorem HasRead.settle (read : HasRead reader arguments) (isOpen : reader.ended = false)
    (settles : reader.settle = .ok next) :
    ∃ given, next = { given := given } ∧ AreTaken given arguments := by
  cases read with
  | settled taken =>
      cases settles
      exact ⟨_, rfl, taken⟩
  | awaiting => cases settles
  | complete taken spells => exact taken.take spells settles
  | ended => cases isOpen

/-- An option with its value attached is taken. -/
theorem HasRead.option_attached (read : HasRead reader arguments) (isOpen : reader.ended = false)
    (stepped : reader.option name (some value) = .ok next) :
    HasRead next (arguments ++ ["--" ++ name.longName ++ "=" ++ value]) := by
  cases valued : name.takesValue with
  | false => simp [option, valued] at stepped
  | true =>
      simp only [option, valued, bind_eq_ok_iff] at stepped
      rcases stepped with ⟨settled, settles, takes⟩
      rcases read.settle isOpen settles with ⟨given, rfl, taken⟩
      rcases taken.take (.attached valued value) takes with ⟨given, rfl, taken⟩
      exact .settled taken

/-- An option without a value is a flag or awaits its value. -/
theorem HasRead.option_bare (read : HasRead reader arguments) (isOpen : reader.ended = false)
    (stepped : reader.option name none = .ok next) :
    HasRead next (arguments ++ ["--" ++ name.longName]) := by
  cases valued : name.takesValue with
  | true =>
      simp only [option, valued, bind_eq_ok_iff, pure_eq_ok_iff] at stepped
      rcases stepped with ⟨settled, settles, rfl⟩
      rcases read.settle isOpen settles with ⟨given, rfl, taken⟩
      exact .awaiting taken valued
  | false =>
      simp only [option, valued, bind_eq_ok_iff] at stepped
      rcases stepped with ⟨settled, settles, takes⟩
      rcases read.settle isOpen settles with ⟨given, rfl, taken⟩
      -- Help and the version are never taken, so the flag is a mode.
      have flag : name.isMode = true ∧ Reader.take { given := given } name "" = .ok next := by
        cases name with
        | staged | all => exact ⟨rfl, takes⟩
        | help | version => cases takes
        | _ => cases valued
      rcases taken.take (.flag flag.1 valued) flag.2 with ⟨given, rfl, taken⟩
      exact .settled taken

theorem eq_longName_of_lookup {text : String}
    (found : OptionName.longNames.lookup text = some name) : text = name.longName := by
  have named : ∀ entry ∈ OptionName.longNames, entry.1 = entry.2.longName := by decide
  rcases List.lookup_eq_some_iff.1 found with ⟨before, after, split, _⟩
  exact named (text, name) (by simp [split])

/-- What is split at an equals sign is put together again. -/
theorem eq_append_of_splitLong {text : List Char} {long : String} {attached : Option String}
    (split : splitLong text = (long, attached)) :
    text = long.toList ++ (attached.map fun value => '=' :: value.toList).getD [] := by
  rcases Prod.mk.inj split with ⟨rfl, rfl⟩
  have whole : text.takeWhile (· != '=') ++ text.dropWhile (· != '=') = text :=
    List.takeWhile_append_dropWhile
  have dropped : text.drop (text.takeWhile (· != '=')).length = text.dropWhile (· != '=') :=
    (congrArg (List.drop _) whole).symm.trans List.drop_left
  have head := List.head?_dropWhile_not (· != '=') text
  rw [dropped, String.toList_ofList]
  cases rest : text.dropWhile (· != '=') with
  | nil =>
      rw [rest] at whole
      exact whole.symm
  | cons first rest' =>
      rw [rest, List.head?_cons] at head
      rw [rest, of_not_not fun other => Bool.false_ne_true (head.symm.trans (bne_iff_ne.2 other))]
        at whole
      rw [List.tail?_cons, Option.map_some, Option.map_some, Option.getD_some, String.toList_ofList]
      exact whole.symm

/-- A long option goes on with the spelling. -/
theorem HasRead.long (read : HasRead reader arguments) (isOpen : reader.ended = false)
    {text : List Char} (written : argument.toList = '-' :: '-' :: text)
    (found : OptionName.longNames.lookup (splitLong text).1 = some name)
    (stepped : reader.option name (splitLong text).2 = .ok next) :
    HasRead next (arguments ++ [argument]) := by
  have whole := eq_append_of_splitLong (Prod.eta (splitLong text)).symm
  rw [eq_longName_of_lookup found] at whole
  cases attached : (splitLong text).2 with
  | none =>
      rw [attached] at whole stepped
      have spelled : argument = "--" ++ name.longName := by
        apply String.toList_inj.1
        simp [written, whole]
      rw [spelled]
      exact read.option_bare isOpen stepped
  | some value =>
      rw [attached] at whole stepped
      have spelled : argument = "--" ++ name.longName ++ "=" ++ value := by
        apply String.toList_inj.1
        simp [written, whole]
      rw [spelled]
      exact read.option_attached isOpen stepped

/-- Nothing is read once help or the version is asked for. -/
theorem option_stop (stop : name = .help ∨ name = .version) :
    reader.option name none ≠ .ok next := by
  intro stepped
  rcases stop with rfl | rfl
  all_goals
    rcases bind_eq_ok_iff.1 stepped with ⟨_, _, stopped⟩
    cases stopped

/-- What has no second character after a hyphen looks like a value. -/
theorem plain_of_not_short
    (notShort : ∀ letter rest, argument.toList = '-' :: letter :: rest → False) :
    argument = "-" ∨ argument.toList.head? ≠ some '-' := by
  cases written : argument.toList with
  | nil => simp
  | cons first rest =>
      by_cases hyphen : first = '-'
      · rw [hyphen] at written
        cases rest with
        | nil => exact .inl (String.toList_inj.1 written)
        | cons second rest => exact absurd written (notShort second rest)
      · simp [hyphen]

/-- One more argument goes on with the spelling. -/
theorem HasRead.step (read : HasRead reader arguments) (stepped : reader.step argument = .ok next) :
    HasRead next (arguments ++ [argument]) := by
  have isOpen : reader.ended = false := by
    cases ended : reader.ended with
    | false => rfl
    | true => simp [Reader.step, ended] at stepped
  simp only [Reader.step, isOpen, Bool.false_eq_true, if_false] at stepped
  split at stepped
  · rename_i written
    cases stepped
    have hyphens : argument = "--" := String.toList_inj.1 written
    rw [hyphens]
    exact .ended read isOpen
  · rename_i text _ written
    split at stepped
    · rename_i name found
      exact read.long isOpen written found stepped
    · cases stepped
  · split at stepped
    · exact absurd stepped (option_stop (.inl rfl))
    · split at stepped
      · exact absurd stepped (option_stop (.inr rfl))
      · cases stepped
  · rename_i notShort
    split at stepped
    · rename_i name pending
      cases stepped
      -- Only an option that awaits its value takes an argument that is no option.
      cases read with
      | awaiting taken valued =>
          cases pending
          rw [List.append_assoc]
          exact .complete taken (.separate valued (plain_of_not_short notShort))
      | settled => cases pending
      | complete => cases pending
      | ended => cases isOpen
    · cases stepped

/-- What is read spells the options taken, whatever else is still to come. -/
theorem HasRead.foldlM (read : HasRead reader arguments) {further : List String}
    (stepped : further.foldlM Reader.step reader = .ok next) :
    HasRead next (arguments ++ further) := by
  induction further generalizing reader arguments with
  | nil =>
      rw [List.foldlM_nil, pure_eq_ok_iff] at stepped
      rw [← stepped, List.append_nil]
      exact read
  | cons argument rest ih =>
      rw [List.foldlM_cons] at stepped
      rcases bind_eq_ok_iff.1 stepped with ⟨middle, first, stepped⟩
      rw [List.append_cons]
      exact ih (read.step first) stepped

theorem settle_ended (reader : Reader) :
    settle { reader with ended := true } =
      reader.settle.map fun settled => { settled with ended := true } := by
  rcases reader with ⟨given, _ | ⟨name, _ | value⟩, ended⟩
  · rfl
  · rfl
  · simp only [settle, take, value?]
    split
    · rfl
    · split
      · rfl
      · rfl

/-- When all arguments are read, what was taken is what they spell. -/
theorem HasRead.exists_taken (read : HasRead reader arguments)
    (settles : reader.settle = .ok next) :
    ∃ spelling, (arguments = spelling ∨ arguments = spelling ++ ["--"]) ∧
      AreTaken next.given spelling := by
  cases isOpen : reader.ended with
  | false =>
      rcases read.settle isOpen settles with ⟨given, rfl, taken⟩
      exact ⟨arguments, .inl rfl, taken⟩
  | true =>
      cases read with
      | @ended reader spelling read wasOpen =>
          rw [settle_ended] at settles
          cases settled : reader.settle with
          | error =>
              rw [settled] at settles
              cases settles
          | ok before =>
              rw [settled] at settles
              cases settles
              rcases read.settle wasOpen settled with ⟨given, rfl, taken⟩
              exact ⟨spelling, .inr rfl, taken⟩
      | _ => cases isOpen

theorem mode_of_single (distinct : (reader.given.map Prod.fst).Nodup) {name : OptionName}
    {path : String} (single : modes reader.given = [(name, path)]) :
    reader.mode = .ok (chosenSource reader.given) := by
  have filtered := single
  unfold modes at filtered
  unfold mode
  rw [filtered]
  rcases chosenSource_of_single distinct single with ⟨rfl, chosen⟩ | ⟨rfl, chosen⟩ | ⟨rfl, chosen⟩
  all_goals rw [chosen]

/-- No mode is missed, and any other number of modes but one is a conflict. -/
theorem mode_eq (distinct : (reader.given.map Prod.fst).Nodup) :
    reader.mode =
      match (modes reader.given).length with
      | 0 => .error .missingMode
      | 1 => .ok (chosenSource reader.given)
      | _ => .error .conflict := by
  cases chosen : modes reader.given with
  | nil =>
      unfold modes at chosen
      rw [mode, chosen]
      rfl
  | cons first rest =>
      cases rest with
      | nil => exact mode_of_single distinct chosen
      | cons second rest =>
          unfold modes at chosen
          rw [mode, chosen]
          rcases first with ⟨name, path⟩
          cases name <;> rfl

end Reader

/-- What comes of options none of which is repeated. -/
theorem parse_of_given {reader : Reader} {logLevel : Option String}
    (settles : (do (← arguments.foldlM Reader.step {}).settle) = Except.ok reader)
    (distinct : (reader.given.map Prod.fst).Nodup) :
    parse arguments logLevel =
      match (modes reader.given).length with
      | 0 => .error .missingMode
      | 1 => .ok (settingsOf reader.given logLevel)
      | _ => .error .conflict := by
  rw [parse, ← bind_assoc, settles]
  change (do let source ← reader.mode; _) = _
  rw [Reader.mode_eq distinct]
  split
  · rfl
  · rfl
  · rfl

namespace Reader

variable {reader : Reader} {name : OptionName} {value : String}

/-- The pending option is one that was taken before. -/
structure Conflicts (reader : Reader) : Prop where
  isOpen : reader.ended = false
  settles : reader.settle = .error .conflict

/-- The conflict is found as soon as another option comes. -/
theorem Conflicts.foldlM_spelling (conflicts : reader.Conflicts)
    (spells : Spells (name, value) arguments) :
    arguments.foldlM Reader.step reader = .error .conflict := by
  have settles := conflicts.settles
  cases spells with
  | flag isMode bare =>
      rw [List.foldlM_cons, step_bare conflicts.isOpen]
      simp [option, bare, settles, bind, Except.bind]
  | attached valued =>
      rw [List.foldlM_cons, step_attached conflicts.isOpen]
      simp [option, valued, settles, bind, Except.bind]
  | separate valued plain =>
      rw [List.foldlM_cons, step_bare conflicts.isOpen]
      simp [option, valued, settles, bind, Except.bind]

/-- The conflict is found at the end if not before. -/
theorem Conflicts.foldlM_spellings (conflicts : reader.Conflicts)
    {options : List (OptionName × String)} {spellings : List (List String)}
    (spelled : List.Forall₂ Spells options spellings) :
    (do (← spellings.flatten.foldlM Reader.step reader).settle) =
      (.error .conflict : Except Stop Reader) := by
  cases spelled with
  | nil => exact conflicts.settles
  | @cons option arguments options spellings spells spelled =>
      rw [List.flatten_cons, List.foldlM_append, conflicts.foldlM_spelling spells]
      rfl

/-- An option that was taken before is refused, or waits to be. -/
theorem Holds.foldlM_repeated (holds : reader.Holds given)
    (spells : Spells (name, value) arguments) (repeated : given.lookup name ≠ none) :
    arguments.foldlM Reader.step reader = .error .conflict ∨
      ∃ next, arguments.foldlM Reader.step reader = .ok next ∧ next.Conflicts := by
  have refused (value : String) : take { given := given } name value = .error .conflict := by
    unfold take value?
    rw [if_pos (Option.isSome_iff_ne_none.2 repeated)]
  cases spells with
  | flag isMode bare =>
      refine .inl ?_
      rw [List.foldlM_cons, step_bare holds.isOpen, option_flag holds.settles isMode bare, refused]
      rfl
  | attached valued =>
      refine .inl ?_
      rw [List.foldlM_cons, step_attached holds.isOpen, option_attached holds.settles valued,
        refused]
      rfl
  | separate valued plain =>
      refine .inr ⟨{ given := given, pending := some (name, some value) }, ?_, rfl, refused value⟩
      rw [List.foldlM_cons, step_bare holds.isOpen, option_awaiting holds.settles valued]
      change [value].foldlM Reader.step _ = _
      rw [List.foldlM_cons, step_value rfl rfl plain]
      rfl

/-- Options of which one is given twice are refused, whichever it is. -/
theorem Holds.foldlM_conflict (holds : reader.Holds given)
    (distinct : (given.map Prod.fst).Nodup) {options : List (OptionName × String)}
    {spellings : List (List String)} (spelled : List.Forall₂ Spells options spellings)
    (supported : ∀ path, (OptionName.output, path) ∈ options → Report.isOutputPath path = true)
    (repeated : ¬((options.reverse ++ given).map Prod.fst).Nodup) :
    (do (← spellings.flatten.foldlM Reader.step reader).settle) =
      (.error .conflict : Except Stop Reader) := by
  induction spelled generalizing reader given with
  | nil => exact absurd distinct repeated
  | @cons option arguments options spellings spells spelled ih =>
      rcases option with ⟨name, value⟩
      rw [List.flatten_cons, List.foldlM_append]
      by_cases fresh : given.lookup name = none
      · rcases holds.foldlM_spelling spells fresh
          (fun isOutput => supported value (by rw [isOutput]; exact List.mem_cons_self)) with
          ⟨middle, read, holds'⟩
        have distinct' : (((name, value) :: given).map Prod.fst).Nodup :=
          List.nodup_cons.2 ⟨lookup_eq_none_iff_not_mem.1 fresh, distinct⟩
        rw [List.reverse_cons, List.append_assoc, List.singleton_append] at repeated
        rw [read]
        exact ih holds' distinct'
          (fun path member => supported path (List.mem_cons_of_mem _ member)) repeated
      · rcases holds.foldlM_repeated spells fresh with refused | ⟨next, read, conflicts⟩
        · rw [refused]
          rfl
        · rw [read]
          exact conflicts.foldlM_spellings spelled

end Reader

variable {logLevel : Option String}

/-- Flags are spelled without a value. -/
theorem SpellsAll.eq_empty (spelled : SpellsAll given arguments) {name : OptionName}
    {value : String} (member : (name, value) ∈ given) (bare : name.takesValue = false) :
    value = "" := by
  rcases spelled with ⟨spellings, spelled, _⟩
  rcases exists_of_mem_left spelled member with ⟨spelling, _, spells⟩
  cases spells with
  | flag => rfl
  | attached valued => cases bare.symm.trans valued
  | separate valued => cases bare.symm.trans valued

/-- Of the options that are spelled, the one mode says where the files come from. -/
theorem SpellsAll.modes_eq (spelled : SpellsAll given arguments)
    (distinct : (given.map Prod.fst).Nodup) (single : (modes given).length = 1) :
    modes given = [Request.modeOption (chosenSource given)] := by
  rcases List.length_eq_one_iff.1 single with ⟨⟨name, value⟩, chosen⟩
  have member : (name, value) ∈ modes given := by simp [chosen]
  have listed : (name, value) ∈ given := (List.mem_filter.1 member).1
  rw [chosen]
  rcases chosenSource_of_single distinct chosen with ⟨rfl, source⟩ | ⟨rfl, source⟩ | ⟨rfl, source⟩
  · rw [source, spelled.eq_empty listed rfl]
    rfl
  · rw [source, spelled.eq_empty listed rfl]
    rfl
  · rw [source]
    rfl

/-- The options of a command line that is accepted. -/
theorem exists_spelled_of_parse {settings : Settings}
    (parsed : parse arguments logLevel = .ok settings) :
    ∃ given spelling, SpellsAll given spelling ∧
      (arguments = spelling ∨ arguments = spelling ++ ["--"]) ∧ (given.map Prod.fst).Nodup ∧
      (modes given).length = 1 ∧ settings = settingsOf given logLevel := by
  have steps := parsed
  simp only [parse, bind_eq_ok_iff] at steps
  rcases steps with ⟨reader, read, settled, settles, _⟩
  have start : Reader.HasRead {} [] := .settled ⟨List.nodup_nil, [], .nil, rfl⟩
  rcases (start.foldlM read).exists_taken settles with ⟨spelling, whole, distinct, spelled⟩
  have settles' : (do (← arguments.foldlM Reader.step {}).settle) = Except.ok settled :=
    bind_eq_ok_iff.2 ⟨reader, read, settles⟩
  rw [parse_of_given settles' distinct] at parsed
  have reordered := settled.given.reverse_perm
  have distinct' := (reordered.map Prod.fst).nodup_iff.2 distinct
  refine ⟨settled.given.reverse, spelling, spelled, whole, distinct', ?_⟩
  rw [length_modes_perm reordered, settingsOf_perm distinct' reordered]
  split at parsed
  · cases parsed
  · rename_i single
    exact ⟨single, (Except.ok.inj parsed).symm⟩
  · cases parsed

/-- What comes of arguments that spell options none of which is repeated. -/
theorem SpellsAll.parse_eq (spelled : SpellsAll given arguments)
    (supported : ∀ path, (OptionName.output, path) ∈ given → Report.isOutputPath path = true)
    (distinct : (given.map Prod.fst).Nodup) :
    parse arguments logLevel =
      match (modes given).length with
      | 0 => .error .missingMode
      | 1 => .ok (settingsOf given logLevel)
      | _ => .error .conflict := by
  rcases spelled with ⟨spellings, spelled, rfl⟩
  have start : Reader.Holds {} [] := ⟨rfl, rfl⟩
  have distinct' := (given.reverse_perm.map Prod.fst).nodup_iff.2 distinct
  rcases start.foldlM_spellings spelled (by rwa [List.append_nil]) supported with
    ⟨reader, read, holds⟩
  rw [List.append_nil] at holds
  have settles : (do (← spellings.flatten.foldlM Reader.step {}).settle) =
      (.ok { given := given.reverse } : Except Stop Reader) :=
    bind_eq_ok_iff.2 ⟨reader, read, holds.settles⟩
  rw [parse_of_given settles distinct', length_modes_perm given.reverse_perm,
    settingsOf_perm distinct' given.reverse_perm]

/-- What comes of arguments that spell an option twice. -/
theorem SpellsAll.parse_repeated (spelled : SpellsAll given arguments)
    (supported : ∀ path, (OptionName.output, path) ∈ given → Report.isOutputPath path = true)
    (repeated : ¬(given.map Prod.fst).Nodup) : parse arguments logLevel = .error .conflict := by
  rcases spelled with ⟨spellings, spelled, rfl⟩
  have start : Reader.Holds {} [] := ⟨rfl, rfl⟩
  have repeated' : ¬((given.reverse ++ []).map Prod.fst).Nodup := by
    rw [List.append_nil, (given.reverse_perm.map Prod.fst).nodup_iff]
    exact repeated
  have conflict := start.foldlM_conflict List.nodup_nil spelled supported repeated'
  rw [parse, ← bind_assoc, conflict]
  rfl

/--
The arguments that are accepted spell options, none of them twice and exactly one of them a mode,
perhaps with a double hyphen behind them; the settings are what these options say, the empty path
is chosen only if it was given, and the report can be put out as asked. Arguments that spell
options with output paths of either kind are refused as a conflict if an option is repeated or
there are two modes, refused for want of a mode if there is none, and accepted otherwise.
-/
theorem parse_well_formed (arguments : List String) (logLevel : Option String) :
    (∀ settings, parse arguments logLevel = .ok settings →
      ∃ given spelling, SpellsAll given spelling ∧
        (arguments = spelling ∨ arguments = spelling ++ ["--"]) ∧
        (given.map Prod.fst).Nodup ∧ modes given = [Request.modeOption settings.source] ∧
        settings = settingsOf given logLevel ∧
        (settings.source = .file "" → (OptionName.file, "") ∈ given) ∧
        ∀ path, settings.outputPath = some path → ∀ result,
          (Report.forPath? path result).isSome = true) ∧
      ∀ given, SpellsAll given arguments →
        (∀ path, (OptionName.output, path) ∈ given → Report.isOutputPath path = true) →
        (¬(given.map Prod.fst).Nodup ∨ 1 < (modes given).length →
          parse arguments logLevel = .error .conflict) ∧
        ((given.map Prod.fst).Nodup → (modes given).length = 0 →
          parse arguments logLevel = .error .missingMode) ∧
        ((given.map Prod.fst).Nodup → (modes given).length = 1 →
          parse arguments logLevel = .ok (settingsOf given logLevel)) := by
  constructor
  · intro settings parsed
    have supported (path : String) (asked : settings.outputPath = some path) :
        Report.isOutputPath path = true := isOutputPath_of_parse parsed asked
    rcases exists_spelled_of_parse parsed with
      ⟨given, spelling, spelled, whole, distinct, single, rfl⟩
    have chosen := spelled.modes_eq distinct single
    refine ⟨given, spelling, spelled, whole, distinct, chosen, rfl, ?_, ?_⟩
    · intro unnamed
      change chosenSource given = .file "" at unnamed
      rw [unnamed] at chosen
      have member : (OptionName.file, "") ∈ modes given := by
        rw [chosen]
        exact List.mem_singleton_self _
      exact (List.mem_filter.1 member).1
    · intro path asked result
      rw [Report.isSome_forPath?]
      exact supported path asked
  · intro given spelled supported
    refine ⟨?_, ?_, ?_⟩
    · intro conflict
      by_cases distinct : (given.map Prod.fst).Nodup
      · rcases conflict with repeated | several
        · exact absurd distinct repeated
        · rw [spelled.parse_eq supported distinct]
          split
          · omega
          · omega
          · rfl
      · exact spelled.parse_repeated supported distinct
    · intro distinct missing
      simp only [spelled.parse_eq supported distinct, missing]
    · intro distinct single
      simp only [spelled.parse_eq supported distinct, single]

/-- Two modes are refused, however far apart they are. -/
theorem parse_two_modes :
    parse ["--all", "--output=r.md", "--file", "a.swift"] none = .error .conflict := by
  have spelled : SpellsAll [(.all, ""), (.output, "r.md"), (.file, "a.swift")]
      ["--all", "--output=r.md", "--file", "a.swift"] :=
    ⟨_, .cons (.flag rfl rfl) (.cons (.attached rfl _)
      (.cons (.separate rfl (.inr (by decide))) .nil)), rfl⟩
  have supported : ∀ path, (OptionName.output, path) ∈
      [(OptionName.all, ""), (.output, "r.md"), (.file, "a.swift")] →
        Report.isOutputPath path = true := by
    intro path member
    simp only [List.mem_cons, Prod.mk.injEq, reduceCtorEq, false_and, true_and, List.not_mem_nil,
      or_false, false_or] at member
    rw [member]
    decide
  exact ((parse_well_formed _ none).2 _ spelled supported).1 (.inr (by decide))

end CommandLine

end Precommit
