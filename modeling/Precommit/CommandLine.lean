import Precommit.Listing
import Precommit.Report.Output

/-!
# The command line

Arguments are read from left to right. An option that takes a value may have it
attached with an equals sign or as the next argument; such a separate value is
settled, and found wrong, only when the next option is taken or the arguments end.
An argument that is no option of the program is refused at once. Which options go
together is judged when all arguments are read.
-/

namespace Precommit

namespace CommandLine

inductive OptionName
  | staged
  | all
  | file
  | commitMessage
  | config
  | output
  | logLevel
  | help
  | version
deriving DecidableEq, Repr

namespace OptionName

def longNames : List (String × OptionName) :=
  [("staged", .staged), ("all", .all), ("file", .file), ("commit-msg", .commitMessage),
    ("config", .config), ("output", .output), ("log-level", .logLevel), ("help", .help),
    ("version", .version)]

def takesValue : OptionName → Bool
  | .staged | .all | .help | .version => false
  | .file | .commitMessage | .config | .output | .logLevel => true

/-- Whether the option says where the files come from. -/
def isMode : OptionName → Bool
  | .staged | .all | .file => true
  | _ => false

end OptionName

/-- Why the arguments do not lead to an audit. -/
inductive Stop
  /-- Two modes, or an option given twice. -/
  | conflict
  /-- No mode. -/
  | missingMode
  /-- An option without its value. -/
  | missingValue
  | unknownArgument
  /-- A value for an option that takes none. -/
  | needlessValue
  /-- An output path for which there is no form of report. -/
  | unsupportedOutput (path : String)
  | helpAsked
  | versionAsked
deriving DecidableEq, Repr

namespace Stop

/-- Whether the arguments are at fault, rather than asking for something else. -/
def isUsageError : Stop → Bool
  | .helpAsked => false
  | .versionAsked => false
  | _ => true

/-- The text about the value at fault. -/
def valueMessage? : Stop → Option String
  | .unsupportedOutput path =>
      some ("unsupported output extension for " ++ path ++ " (use .md or .json)")
  | _ => none

end Stop

/-- What the arguments ask for. -/
structure Settings where
  source : FileSource
  commitMessage : Option String
  policyPath : String
  outputPath : Option String
  logLevel : String
deriving DecidableEq, Repr

/-- The state of reading the arguments. -/
structure Reader where
  /-- The options taken so far with their values, which are empty for flags. -/
  given : List (OptionName × String) := []
  /-- An option that awaits its value as a separate argument, or has just got it. -/
  pending : Option (OptionName × Option String) := none
  /-- Whether a double hyphen has ended the options. -/
  ended : Bool := false
deriving DecidableEq, Repr

namespace Reader

def value? (reader : Reader) (name : OptionName) : Option String :=
  reader.given.lookup name

def take (reader : Reader) (name : OptionName) (value : String) : Except Stop Reader :=
  if (reader.value? name).isSome then .error .conflict
  else if name = .output && !Report.isOutputPath value then .error (.unsupportedOutput value)
  else .ok { reader with given := (name, value) :: reader.given }

/-- Take the pending option. -/
def settle (reader : Reader) : Except Stop Reader :=
  match reader.pending with
  | none => .ok reader
  | some (_, none) => .error .missingValue
  | some (name, some value) => { reader with pending := none }.take name value

/-- Take an option whose value, if it needs one, is attached or still to come. -/
def option (reader : Reader) (name : OptionName) (attached : Option String) :
    Except Stop Reader :=
  match name.takesValue, attached with
  | true, some value => do (← reader.settle).take name value
  | true, none => do pure { ← reader.settle with pending := some (name, none) }
  | false, some _ => .error .needlessValue
  | false, none => do
      let reader ← reader.settle
      match name with
      | .help => .error .helpAsked
      | .version => .error .versionAsked
      | _ => reader.take name ""

/-- Split the text after the hyphens of a long option at its first equals sign. -/
def splitLong (text : List Char) : String × Option String :=
  let name := text.takeWhile (· != '=')
  (String.ofList name, ((text.drop name.length).tail?).map String.ofList)

/-- The state after one more argument. -/
def step (reader : Reader) (argument : String) : Except Stop Reader :=
  if reader.ended then .error .unknownArgument
  else
    match argument.toList with
    | ['-', '-'] => .ok { reader with ended := true }
    | '-' :: '-' :: text =>
        let (name, attached) := splitLong text
        match OptionName.longNames.lookup name with
        | some name => reader.option name attached
        | none => .error .unknownArgument
    | '-' :: letter :: _ =>
        if letter = 'h' then reader.option .help none
        else if letter = 'V' then reader.option .version none
        else .error .unknownArgument
    | _ =>
        match reader.pending with
        | some (name, none) => .ok { reader with pending := some (name, some argument) }
        | _ => .error .unknownArgument

/-- The mode among the options, of which there has to be exactly one. -/
def mode (reader : Reader) : Except Stop FileSource :=
  match reader.given.filter (·.1.isMode) with
  | [] => .error .missingMode
  | [(.staged, _)] => .ok .staged
  | [(.all, _)] => .ok .all
  | [(_, path)] => .ok (.file path)
  | _ => .error .conflict

end Reader

def defaultPolicyPath : String := "commit-audit.toml"

/-- The log level where neither an option nor the environment gives one. -/
def defaultLogLevel : String := "warn"

/-- Read the arguments after the program name, given the log level of the environment. -/
def parse (arguments : List String) (logLevel : Option String) : Except Stop Settings := do
  let reader ← arguments.foldlM Reader.step {}
  let reader ← reader.settle
  let source ← reader.mode
  pure
    { source := source
      commitMessage := reader.value? .commitMessage
      policyPath := (reader.value? .config).getD defaultPolicyPath
      outputPath := reader.value? .output
      logLevel := ((reader.value? .logLevel).or logLevel).getD defaultLogLevel }

end CommandLine

end Precommit
