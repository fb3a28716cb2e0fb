import BringUp.Failure
import BringUp.Pattern.Error
import BringUp.Text.Duration
import BringUp.Text.Quoted

/-!
# Why a step fails

A step can fail because its line says nothing that can be done, because what it checks is not so,
or because the device does not answer or is gone.
-/

namespace BringUp

/-- Why a step fails. -/
inductive StepError where
  /-- The command is empty. -/
  | invalidCommand (command : String)
  /-- The line does not have the form of its kind. -/
  | invalidFormat (reason : String)
  /-- A pattern cannot be read. -/
  | invalidPattern (pattern : String) (cause : PatternError)
  /-- The command list has no entry at this place. -/
  | missingCommand (index : Nat)
  /-- No function has this name. -/
  | unknownFunction (name : String)
  /-- No variable has this name. -/
  | unknownVariable (name : String)
  /-- A function failed. -/
  | function (name : String) (cause : Failure)
  /-- No fitting reply came in time. -/
  | timeout (command : String) (waited : Nat)
  /-- The checked text is not as expected. -/
  | mismatch (expected actual : String)
  /-- A line could not be written. -/
  | transport (cause : Failure)
  /-- The connection is closed. -/
  | transportClosed

namespace StepError

/-- The error in words, those for the fault of a pattern being given. -/
def message (wording : PatternError.Wording) : StepError → String
  | .invalidCommand command => "invalid command: " ++ Text.Quoted.quote command
  | .invalidFormat reason => "invalid command format: " ++ reason
  | .invalidPattern pattern cause =>
    "invalid pattern '" ++ pattern ++ "': " ++ wording pattern cause
  | .missingCommand index => "sequence references missing command " ++ toString index
  | .unknownFunction name => "unknown function: " ++ name
  | .unknownVariable name => "unknown variable: " ++ name
  | .function name cause => "function '" ++ name ++ "' failed: " ++ cause.text
  | .timeout command waited =>
    "command timeout after " ++ Text.duration waited ++ " waiting on '" ++ command ++ "'"
  | .mismatch expected actual =>
    "expected " ++ Text.Quoted.quote expected ++ ", got " ++ Text.Quoted.quote actual
  | .transport cause => "transport write failed: " ++ cause.text
  | .transportClosed => "transport closed"

/-- Whether the connection to the device is lost. -/
def isLoss : StepError → Bool
  | .transport _ | .transportClosed => true
  | _ => false

end StepError

end BringUp
