import BringUp.Settings
import BringUp.Text.Split

/-!
# Options of the command line

Options change single settings, or choose the port and the device. Each may be given once; a long
option takes its value as the next word or after an equals sign, a short one also right behind it.
`--simulate` takes all words that follow.
-/

namespace BringUp

/-- What the command line asks for. -/
structure Options where
  /-- The path of a settings document. -/
  config : Option String := none
  /-- The path of the command list. -/
  commandList : Option String := none
  /-- The path of the sequence. -/
  commandSequence : Option String := none
  /-- The port to open without asking. -/
  port : Option String := none
  /-- The rate of the port. -/
  baud : Option Nat := none
  /-- The directory for the transcript. -/
  outputDirectory : Option String := none
  /-- The name of the transcript. -/
  transcriptName : Option String := none
  /-- A program that plays the device, with its arguments. -/
  simulator : List String := []
  deriving Repr, DecidableEq, Inhabited

/-- Why a command line cannot be understood. -/
inductive UsageError where
  /-- There is no such option. -/
  | unexpected (word : String)
  /-- An option lacks its value. -/
  | missingValue (option : String)
  /-- An option is given twice. -/
  | repeated (option : String)
  /-- The rate is no number of 32 bits. -/
  | invalidBaud (value : String) (cause : Text.NumeralError)
  deriving Repr, DecidableEq

/-- The error in words. -/
def UsageError.message : UsageError → String
  | .unexpected word => "unexpected argument '" ++ word ++ "' found"
  | .missingValue option => "a value is required for '" ++ option ++ "' but none was supplied"
  | .repeated option => "the argument '" ++ option ++ "' cannot be used multiple times"
  | .invalidBaud value cause => "invalid value '" ++ value ++ "' for '--baud': " ++ cause.message

namespace Options

/-- The long form of a short option. -/
def longForm? : List Char → Option String
  | ['p'] => some "--port"
  | ['b'] => some "--baud"
  | ['n'] => some "--name"
  | _ => none

/-- A word as an option and the value that it carries, if it carries one. -/
def splitWord (word : String) : String × Option String :=
  match word.toList with
  | '-' :: '-' :: rest =>
    match Text.splitOnce? ['='] rest with
    | some (name, value) => (String.ofList ('-' :: '-' :: name), some (String.ofList value))
    | none => (word, none)
  | '-' :: letter :: rest =>
    match longForm? [letter], rest with
    | some option, [] => (option, none)
    | some option, '=' :: value => (option, some (String.ofList value))
    | some option, value => (option, some (String.ofList value))
    | none, _ => (word, none)
  | _ => (word, none)

/-- Sets something that has not been set. -/
def setOnce {α : Type} (option : String) (old : Option α) (value : α) :
    Except UsageError (Option α) :=
  if old.isSome then .error (.repeated option) else .ok (some value)

/-- Sets an option to its value. -/
def set (option value : String) (o : Options) : Except UsageError Options :=
  match option with
  | "--config" => (setOnce option o.config value).map fun v => { o with config := v }
  | "--commands" => (setOnce option o.commandList value).map fun v => { o with commandList := v }
  | "--sequence" =>
    (setOnce option o.commandSequence value).map fun v => { o with commandSequence := v }
  | "--port" => (setOnce option o.port value).map fun v => { o with port := v }
  | "--baud" =>
    match Text.readNat Text.maxWord32 value.toList with
    | .ok n => (setOnce option o.baud n).map fun v => { o with baud := v }
    | .error e => .error (.invalidBaud value e)
  | "--output-dir" =>
    (setOnce option o.outputDirectory value).map fun v => { o with outputDirectory := v }
  | "--name" => (setOnce option o.transcriptName value).map fun v => { o with transcriptName := v }
  | _ => .error (.unexpected option)

/-- The options that take a value. -/
def withValue : List String :=
  ["--config", "--commands", "--sequence", "--port", "--baud", "--output-dir", "--name"]

/-- Reads the words of a command line. -/
def read (o : Options) : List String → Except UsageError Options
  | [] => .ok o
  | word :: rest =>
    match splitWord word with
    | ("--simulate", some program) => .ok { o with simulator := program :: rest }
    | ("--simulate", none) =>
      if rest.isEmpty then .error (.missingValue "--simulate") else .ok { o with simulator := rest }
    | (option, some value) => (o.set option value).bind fun o => read o rest
    | (option, none) =>
      if !withValue.contains option then .error (.unexpected word)
      else
        match rest with
        | [] => .error (.missingValue option)
        | value :: rest => (o.set option value).bind fun o => read o rest

/-- The settings with the changes that the options ask for. -/
def apply (o : Options) (s : Settings) : Settings :=
  { s with
    commandList := o.commandList.getD s.commandList
    commandSequence := o.commandSequence.getD s.commandSequence
    baud := o.baud.getD s.baud
    outputDirectory := o.outputDirectory.getD s.outputDirectory
    transcriptName := o.transcriptName.or s.transcriptName }

end Options

end BringUp
