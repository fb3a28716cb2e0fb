import BringUp.Text.Blank
import BringUp.Text.Split

/-!
# Command lists

A command list is a text with a command on each line. A line may start with a label, which is a
number and a blank, and is not part of the command. A command is addressed by the place of its line,
whatever the label says.

* `length_commandList`: every line is a command.
-/

namespace BringUp.Script

/-- Whether a text is a number: decimal digits, and at least one. -/
def isLabel (cs : List Char) : Bool := !cs.isEmpty && cs.all Char.isDigit

/-- A line without its label. -/
def dropLabel (line : List Char) : List Char :=
  let (label, rest) := (Text.splitOnce? [' '] line).getD (line, [])
  if isLabel label then rest else line

/-- The commands of a command list. -/
def commandList (content : String) : List String :=
  (Text.lines content).map fun line => String.ofList (dropLabel line.toList)

/-- Every line is a command. -/
theorem length_commandList (content : String) :
    (commandList content).length = (Text.lines content).length := by
  simp [commandList]

end BringUp.Script
