import BringUp.Files.Tree
import BringUp.Script.CommandList
import BringUp.Script.Sequence
import BringUp.Settings

/-!
# Loading files

Command lists, sequences and settings are read from files. The failure tells the file.
-/

namespace BringUp

namespace FileTree

/-- Reads a text; `what` tells what it is. -/
def load (what path : String) (t : FileTree) : Except Failure String :=
  match t.read path with
  | .ok text => .ok text
  | .error e =>
    .error { message := "Failed to read " ++ what ++ ": " ++ path, causes := [e.message] }

/-- Reads a command list from a file. -/
def loadCommandList (path : String) (t : FileTree) : Except Failure (List String) :=
  (t.load "command list" path).map Script.commandList

/-- Reads a sequence from a file. -/
def loadSequence (path : String) (t : FileTree) : Except Failure (List Script.Entry) :=
  match t.load "sequence file" path with
  | .error failure => .error failure
  | .ok content => (Script.readSequence content).mapError (·.context ("Failed to parse " ++ path))

/-- Reads settings from a file. -/
def loadSettings (path : String) (t : FileTree) : Except Failure Settings :=
  match t.load "settings file" path with
  | .error failure => .error failure
  | .ok content =>
    (Settings.ofDocument content).mapError
      (·.context ("Failed to parse settings file: " ++ path))

end FileTree

end BringUp
