import BringUp.Failure
import BringUp.Files.Tree
import BringUp.Settings.Document
import BringUp.Text.Blank

/-!
# Settings

The settings of a session are the times it waits, the port rate, and the files it reads and writes.
All of them have defaults, and a settings document names those to be changed.
-/

namespace BringUp

/-- The settings of a session. -/
structure Settings where
  /-- How long to wait for a line that a pattern matches, in milliseconds. -/
  patternTimeout : Nat := 5000
  /-- How long to wait for a number of lines, in milliseconds. -/
  countTimeout : Nat := 1000
  /-- The time between two steps, in milliseconds. -/
  stepInterval : Nat := 500
  /-- The rate of the port. -/
  baud : Nat := 115200
  /-- The path of the command list. -/
  commandList : String := "files/commandList.txt"
  /-- The path of the sequence. -/
  commandSequence : String := "files/commandSequence.txt"
  /-- The directory for the transcript. -/
  outputDirectory : String := "output"
  /-- What follows the name of a transcript in the name of its file. -/
  outputSuffix : String := "_Debug_Output.txt"
  /-- The name of the transcript, if it has one. -/
  transcriptName : Option String := none
  deriving Repr, DecidableEq, Inhabited

namespace Settings

/-- A number from 0 to `limit`. -/
def number? (limit : Nat) : Value → Option Nat
  | .integer n => if 0 ≤ n && n ≤ limit then some n.toNat else none
  | .text _ => none

/-- A text. -/
def text? : Value → Option String
  | .text s => some s
  | .integer _ => none

/-- The settings with one of them changed. -/
def set? (key : String) (value : Value) (s : Settings) : Option Settings :=
  match key with
  | "command_timeout_ms" =>
    (number? Text.maxWord64 value).map fun n => { s with patternTimeout := n }
  | "reply_count_timeout_ms" =>
    (number? Text.maxWord64 value).map fun n => { s with countTimeout := n }
  | "step_interval_ms" =>
    (number? Text.maxWord64 value).map fun n => { s with stepInterval := n }
  | "baud_rate" => (number? Text.maxWord32 value).map fun n => { s with baud := n }
  | "command_list" => (text? value).map fun t => { s with commandList := t }
  | "command_sequence" => (text? value).map fun t => { s with commandSequence := t }
  | "output_dir" => (text? value).map fun t => { s with outputDirectory := t }
  | "output_suffix" => (text? value).map fun t => { s with outputSuffix := t }
  | "transcript_name" => (text? value).map fun t => { s with transcriptName := some t }
  | _ => none

/-- The settings with some of them changed, each at most once. -/
def setAll? : List (String × Value) → Settings → Option Settings
  | [], s => some s
  | (key, value) :: rest, s =>
    if rest.any (·.1 == key) then none else (s.set? key value).bind (setAll? rest)

/-- Reads the settings from a settings document. -/
def ofDocument (document : String) : Except Failure Settings :=
  match (Document.read? document).bind fun pairs => setAll? pairs {} with
  | some s => .ok s
  | none => .error { message := "Invalid settings", causes := ["TOML parse error"] }

/-- The name of the transcript without blanks around it, if that leaves something. -/
def transcriptStem? (s : Settings) : Option String :=
  s.transcriptName.bind fun name =>
    let stem := Text.trim name
    if stem.isEmpty then none else some stem

/-- The path of a transcript. -/
def pathOf (stem : String) (s : Settings) : String :=
  Path.join s.outputDirectory (stem ++ s.outputSuffix)

/-- The path of the transcript, if it has a name. -/
def transcriptPath? (s : Settings) : Option String := s.transcriptStem?.map s.pathOf

/-- The path of the transcript; one without a name is named after the day. -/
def transcriptPath (today : String) (s : Settings) : String :=
  s.pathOf (s.transcriptStem?.getD today)

end Settings

end BringUp
