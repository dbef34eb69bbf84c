import Precommit.Proofs.CommandLine
import Precommit.Proofs.Entries

/-!
# Spelling out the command line

An option is spelled with its value attached or, unless the value would be taken for an
option, with the value as an argument of its own. The options of an audit may come in any
order and each in any of its spellings; they are always read as what they say.
-/

namespace Precommit

namespace CommandLine

namespace OptionName

/-- The option as it is written after the hyphens. -/
def longName : OptionName → String
  | .staged => "staged"
  | .all => "all"
  | .file => "file"
  | .commitMessage => "commit-msg"
  | .config => "config"
  | .output => "output"
  | .logLevel => "log-level"
  | .help => "help"
  | .version => "version"

theorem lookup_longName (name : OptionName) : longNames.lookup name.longName = some name := by
  cases name <;> decide

theorem longName_ne_nil (name : OptionName) : name.longName.toList ≠ [] := by
  cases name <;> decide

theorem not_mem_longName (name : OptionName) : '=' ∉ name.longName.toList := by
  cases name <;> decide

end OptionName

/-- The arguments that say that an option has a value, which is empty for a flag. -/
inductive Spells : OptionName × String → List String → Prop
  | flag {name : OptionName} (isMode : name.isMode = true) (bare : name.takesValue = false) :
      Spells (name, "") ["--" ++ name.longName]
  | attached {name : OptionName} (valued : name.takesValue = true) (value : String) :
      Spells (name, value) ["--" ++ name.longName ++ "=" ++ value]
  /-- The value is an argument of its own, which has to look like a value. -/
  | separate {name : OptionName} (valued : name.takesValue = true) {value : String}
      (plain : value = "-" ∨ value.toList.head? ≠ some '-') :
      Spells (name, value) ["--" ++ name.longName, value]

/-- What a command line asks for; an option that it leaves out is `none`. -/
structure Request where
  source : FileSource
  commitMessage : Option String
  policyPath : Option String
  outputPath : Option String
  logLevel : Option String
deriving DecidableEq, Repr

namespace Request

/-- The option that chooses the files. -/
def modeOption : FileSource → OptionName × String
  | .staged => (.staged, "")
  | .all => (.all, "")
  | .file path => (.file, path)

/-- An option that may be left out. -/
def optional (name : OptionName) (value : Option String) : List (OptionName × String) :=
  (value.map fun value => (name, value)).toList

/-- The options of the request with their values. -/
def options (request : Request) : List (OptionName × String) :=
  modeOption request.source ::
    (optional .commitMessage request.commitMessage ++ optional .config request.policyPath ++
      optional .output request.outputPath ++ optional .logLevel request.logLevel)

variable (request : Request)

theorem isMode_modeOption (source : FileSource) : (modeOption source).1.isMode = true := by
  cases source <;> rfl

theorem lookup_options :
    request.options.lookup .commitMessage = request.commitMessage ∧
      request.options.lookup .config = request.policyPath ∧
      request.options.lookup .output = request.outputPath ∧
      request.options.lookup .logLevel = request.logLevel := by
  rcases request with ⟨source, commitMessage, policyPath, outputPath, logLevel⟩
  cases source <;> cases commitMessage <;> cases policyPath <;> cases outputPath <;>
    cases logLevel <;> exact ⟨rfl, rfl, rfl, rfl⟩

theorem nodup_options : (request.options.map Prod.fst).Nodup := by
  rcases request with ⟨source, commitMessage, policyPath, outputPath, logLevel⟩
  cases source <;> cases commitMessage <;> cases policyPath <;> cases outputPath <;>
    cases logLevel <;> simp [options, modeOption, optional]

theorem filter_isMode_options :
    request.options.filter (·.1.isMode) = [modeOption request.source] := by
  have dropped {name : OptionName} (other : name.isMode = false) (value : Option String) :
      (optional name value).filter (fun option => option.1.isMode) = [] := by
    cases value <;> simp [optional, other]
  simp only [options, List.filter_cons, isMode_modeOption, if_true, List.filter_append,
    @dropped .commitMessage rfl, @dropped .config rfl, @dropped .output rfl,
    @dropped .logLevel rfl, List.append_nil]

end Request

namespace Reader

/-- Once the pending option is taken, exactly the given options are. -/
structure Holds (reader : Reader) (given : List (OptionName × String)) : Prop where
  isOpen : reader.ended = false
  settles : reader.settle = .ok { given := given }

variable {reader : Reader} {given : List (OptionName × String)} {name : OptionName}
  {value : String}

theorem splitLong_name (name : OptionName) :
    splitLong name.longName.toList = (name.longName, none) := by
  have taken : name.longName.toList.takeWhile (· != '=') = name.longName.toList := by
    rw [← List.append_nil (name.longName.toList), List.takeWhile_append_of_pos, List.takeWhile_nil]
    intro character member
    rw [bne_iff_ne]
    exact ne_of_mem_of_not_mem member name.not_mem_longName
  rw [splitLong, taken]
  simp

theorem splitLong_attached (name : OptionName) (value : List Char) :
    splitLong (name.longName.toList ++ '=' :: value) =
      (name.longName, some (String.ofList value)) := by
  have taken : (name.longName.toList ++ '=' :: value).takeWhile (· != '=') =
      name.longName.toList := by
    rw [List.takeWhile_append_of_pos, List.takeWhile_cons_of_neg (by simp), List.append_nil]
    intro character member
    rw [bne_iff_ne]
    exact ne_of_mem_of_not_mem member name.not_mem_longName
  rw [splitLong, taken]
  simp

/-- What a long option does, given the text after its hyphens. -/
theorem step_long (isOpen : reader.ended = false) {argument : String} {text : List Char}
    (written : argument.toList = '-' :: '-' :: text) (nonempty : text ≠ [])
    {attached : Option String} (read : splitLong text = (name.longName, attached)) :
    reader.step argument = reader.option name attached := by
  cases text with
  | nil => exact absurd rfl nonempty
  | cons initial text => simp [step, isOpen, written, read, name.lookup_longName]

theorem step_bare (isOpen : reader.ended = false) :
    reader.step ("--" ++ name.longName) = reader.option name none :=
  step_long isOpen (by simp) name.longName_ne_nil (splitLong_name name)

theorem step_attached (isOpen : reader.ended = false) :
    reader.step ("--" ++ name.longName ++ "=" ++ value) = reader.option name (some value) := by
  have written : ("--" ++ name.longName ++ "=" ++ value).toList =
      '-' :: '-' :: (name.longName.toList ++ '=' :: value.toList) := by
    simp
  apply step_long isOpen written (by simp)
  rw [splitLong_attached, String.ofList_toList]

/-- An argument that does not look like an option is the value that is awaited. -/
theorem step_value (isOpen : reader.ended = false) (awaits : reader.pending = some (name, none))
    (plain : value = "-" ∨ value.toList.head? ≠ some '-') :
    reader.step value = .ok { reader with pending := some (name, some value) } := by
  rcases plain with rfl | plain
  · simp [step, isOpen, awaits]
  · simp only [step, isOpen, Bool.false_eq_true, if_false]
    split
    · rename_i written
      exact absurd (by rw [written]; rfl) plain
    · rename_i written
      exact absurd (by rw [written]; rfl) plain
    · rename_i written
      exact absurd (by rw [written]; rfl) plain
    · simp [awaits]

section Option

variable {settled : Reader}

theorem option_flag (settles : reader.settle = .ok settled) (isMode : name.isMode = true)
    (bare : name.takesValue = false) : reader.option name none = settled.take name "" := by
  cases name with
  | staged | all => simp [option, OptionName.takesValue, settles, bind, Except.bind]
  | file => cases bare
  | _ => cases isMode

theorem option_attached (settles : reader.settle = .ok settled)
    (valued : name.takesValue = true) :
    reader.option name (some value) = settled.take name value := by
  simp [option, valued, settles, bind, Except.bind]

theorem option_awaiting (settles : reader.settle = .ok settled)
    (valued : name.takesValue = true) :
    reader.option name none = .ok { settled with pending := some (name, none) } := by
  simp [option, valued, settles, bind, Except.bind, pure, Except.pure]

end Option

theorem take_of_fresh (fresh : given.lookup name = none)
    (supported : name = .output → Report.isOutputPath value = true) :
    take { given := given } name value = .ok { given := (name, value) :: given } :=
  take_eq_ok_iff.2 ⟨fresh, supported, rfl⟩

/-- The arguments of one more option add that option. -/
theorem Holds.foldlM_spelling (holds : reader.Holds given) {arguments : List String}
    (spells : Spells (name, value) arguments) (fresh : given.lookup name = none)
    (supported : name = .output → Report.isOutputPath value = true) :
    ∃ next, arguments.foldlM Reader.step reader = .ok next ∧
      next.Holds ((name, value) :: given) := by
  have taken := take_of_fresh fresh supported
  cases spells with
  | flag isMode bare =>
      refine ⟨{ given := (name, "") :: given }, ?_, rfl, rfl⟩
      rw [List.foldlM_cons, step_bare holds.isOpen, option_flag holds.settles isMode bare, taken]
      rfl
  | attached valued =>
      refine ⟨{ given := (name, value) :: given }, ?_, rfl, rfl⟩
      rw [List.foldlM_cons, step_attached holds.isOpen, option_attached holds.settles valued, taken]
      rfl
  | separate valued plain =>
      refine ⟨{ given := given, pending := some (name, some value) }, ?_, rfl, taken⟩
      rw [List.foldlM_cons, step_bare holds.isOpen, option_awaiting holds.settles valued]
      change [value].foldlM Reader.step _ = _
      rw [List.foldlM_cons, step_value rfl rfl plain]
      rfl

/-- The arguments of further options add these options one after the other. -/
theorem Holds.foldlM_spellings (holds : reader.Holds given)
    {options : List (OptionName × String)} {spellings : List (List String)}
    (spelled : List.Forall₂ Spells options spellings)
    (distinct : ((options.reverse ++ given).map Prod.fst).Nodup)
    (supported : ∀ path, (OptionName.output, path) ∈ options →
      Report.isOutputPath path = true) :
    ∃ next, spellings.flatten.foldlM Reader.step reader = .ok next ∧
      next.Holds (options.reverse ++ given) := by
  induction spelled generalizing reader given with
  | nil => exact ⟨reader, rfl, holds⟩
  | @cons option arguments options spellings spells _ ih =>
      rcases option with ⟨name, value⟩
      rw [List.reverse_cons, List.append_assoc, List.singleton_append] at distinct ⊢
      have fresh : given.lookup name = none := by
        rw [lookup_eq_none_iff_not_mem]
        rw [List.map_append, List.map_cons] at distinct
        exact (List.nodup_cons.1 (List.nodup_append.1 distinct).2.1).1
      rcases holds.foldlM_spelling spells fresh
        (fun isOutput => supported value (by rw [isOutput]; exact List.mem_cons_self)) with
        ⟨middle, read, holds'⟩
      rcases ih holds' distinct (fun path member =>
        supported path (List.mem_cons_of_mem _ member)) with ⟨next, read', holds''⟩
      refine ⟨next, ?_, holds''⟩
      rw [List.flatten_cons, List.foldlM_append, read]
      exact read'

theorem mode_of_filter {source : FileSource}
    (chosen : reader.given.filter (·.1.isMode) = [Request.modeOption source]) :
    reader.mode = .ok source := by
  unfold mode
  rw [chosen]
  cases source <;> rfl

end Reader

/--
The options of a request, in any order and each in any of its spellings, are read as that
request; what is left out has its default.
-/
theorem parse_spelled (request : Request)
    (supported : ∀ path, request.outputPath = some path → Report.isOutputPath path = true)
    {options : List (OptionName × String)} (ordered : options.Perm request.options)
    {spellings : List (List String)} (spelled : List.Forall₂ Spells options spellings)
    (environment : Option String) :
    parse spellings.flatten environment =
      .ok
        { source := request.source
          commitMessage := request.commitMessage
          policyPath := request.policyPath.getD "commit-audit.toml"
          outputPath := request.outputPath
          logLevel := (request.logLevel.or environment).getD "warn" } := by
  have reordered : options.reverse.Perm request.options := options.reverse_perm.trans ordered
  have distinct : (options.reverse.map Prod.fst).Nodup :=
    (reordered.map Prod.fst).nodup_iff.2 request.nodup_options
  have found (key : OptionName) : options.reverse.lookup key = request.options.lookup key :=
    lookup_eq_of_perm distinct reordered
  rcases request.lookup_options with ⟨commitMessage, policyPath, outputPath, logLevel⟩
  have outputs : ∀ path, (OptionName.output, path) ∈ options →
      Report.isOutputPath path = true := by
    intro path member
    rw [ordered.mem_iff, ← lookup_eq_some_iff_mem request.nodup_options, outputPath] at member
    exact supported path member
  have start : Reader.Holds {} [] := ⟨rfl, rfl⟩
  rcases start.foldlM_spellings spelled (by rwa [List.append_nil]) outputs with
    ⟨reader, read, holds⟩
  rw [List.append_nil] at holds
  have mode : Reader.mode { given := options.reverse } = .ok request.source := by
    apply Reader.mode_of_filter
    rw [← List.perm_singleton, ← request.filter_isMode_options]
    exact reordered.filter _
  rw [parse, read]
  simp only [bind, Except.bind, holds.settles, mode, Reader.value?, found, commitMessage,
    policyPath, outputPath, logLevel]
  rfl

/--
The options come in another order, an output path looks like an option, a message has an
equals sign and the environment gives the log level.
-/
theorem parse_mixed_spellings :
    parse ["--output=-r.md", "--commit-msg", "fix(a): b=c", "--file", "-", "--config="]
        (some "info") =
      .ok
        { source := .file "-"
          commitMessage := some "fix(a): b=c"
          policyPath := ""
          outputPath := some "-r.md"
          logLevel := "info" } :=
  parse_spelled
    { source := .file "-"
      commitMessage := some "fix(a): b=c"
      policyPath := some ""
      outputPath := some "-r.md"
      logLevel := none }
    (by rintro path ⟨⟩; decide)
    (show [(.output, "-r.md"), (.commitMessage, "fix(a): b=c"), (.file, "-"),
      (.config, "")].Perm _ by decide)
    (.cons (.attached rfl _) (.cons (.separate rfl (.inr (by decide)))
      (.cons (.separate rfl (.inl rfl)) (.cons (.attached rfl _) .nil))))
    (some "info")

end CommandLine

end Precommit
