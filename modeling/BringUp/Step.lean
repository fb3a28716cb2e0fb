import BringUp.Step.Comparison
import BringUp.Step.Execution
import BringUp.Step.VariableCheck

/-!
# Steps

A step is a command line by its kind. The kind is told by the start of the line alone:

* `##text` shows a text and waits for the operator, `#text` only shows it;
* `~call` calls a function and checks its result;
* `=comparison` writes a command to the device and checks the reply;
* `^check` checks a variable;
* an empty line is no command, and any other line is written to the device.

References in a line are replaced before the rest is read, except in a check of a variable.
-/

namespace BringUp

/-- A command line, read. -/
inductive Step where
  /-- Show a text and wait for the operator. -/
  | pause (text : String)
  /-- Show a text. -/
  | print (text : String)
  /-- Call a function. -/
  | execute (execution : Execution)
  /-- Check a reply of the device. -/
  | compare (comparison : Comparison)
  /-- Check a variable. -/
  | checkVariable (check : VariableCheck)
  /-- Write a line to the device. -/
  | send (line : String)
  /-- An empty line. -/
  | invalid (raw : String)

/-- The kinds of steps. -/
inductive StepKind where
  | pause
  | print
  | execute
  | compare
  | checkVariable
  | send
  | invalid
  deriving Repr, DecidableEq

namespace StepKind

/-- The name of a kind. -/
def name : StepKind → String
  | .pause => "pause"
  | .print => "print"
  | .execute => "execute"
  | .compare => "compare"
  | .checkVariable => "var-compare"
  | .send => "send"
  | .invalid => "invalid"

/-- Whether steps of this kind check something. -/
def isCheck : StepKind → Bool
  | .execute | .compare | .checkVariable => true
  | .pause | .print | .send | .invalid => false

/-- Whether references are replaced before a step of this kind is read. -/
def substitutes : StepKind → Bool
  | .checkVariable | .invalid => false
  | .pause | .print | .execute | .compare | .send => true

/-- What a line of this kind starts with. -/
def mark : StepKind → List Char
  | .pause => ['#', '#']
  | .print => ['#']
  | .execute => ['~']
  | .compare => ['=']
  | .checkVariable => ['^']
  | .send | .invalid => []

/-- The kind of a line. -/
def ofLine : List Char → StepKind
  | [] => .invalid
  | '#' :: '#' :: _ => .pause
  | '#' :: _ => .print
  | '~' :: _ => .execute
  | '=' :: _ => .compare
  | '^' :: _ => .checkVariable
  | _ :: _ => .send

end StepKind

namespace Step

/-- The kind of a step. -/
def kind : Step → StepKind
  | .pause _ => .pause
  | .print _ => .print
  | .execute _ => .execute
  | .compare _ => .compare
  | .checkVariable _ => .checkVariable
  | .send _ => .send
  | .invalid _ => .invalid

/-- Whether the step checks something. -/
def isCheck (s : Step) : Bool := s.kind.isCheck

/-- Reads a step of a known kind. -/
def read (body : String) : StepKind → Except StepError Step
  | .pause => .ok (.pause body)
  | .print => .ok (.print body)
  | .execute => (Execution.read body).map .execute
  | .compare => (Comparison.read body).map .compare
  | .checkVariable => (VariableCheck.read body).map .checkVariable
  | .send => .ok (.send body)
  | .invalid => .ok (.invalid body)

/-- Reads a command line. -/
def ofLine (raw : String) (v : Variables) : Except StepError Step :=
  let kind := StepKind.ofLine raw.toList
  let line := if kind.substitutes then v.substitute raw else raw
  read (String.ofList (line.toList.drop kind.mark.length)) kind

end Step

end BringUp
