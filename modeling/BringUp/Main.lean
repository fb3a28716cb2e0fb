import BringUp.Options
import BringUp.Port.Serial
import BringUp.Port.Simulator
import BringUp.Session.Run

/-!
# The command line

Reads the options, the files that they name and the lines of the operator, runs a session, shows
what it has to say, and writes the transcript. Serial lines and terminals are out of reach from
here: every port that is asked for is refused, and so no function is ever called.
-/

namespace BringUp

/-- Adds a file to a tree, if it is there. -/
def addFile (files : FileTree) (path : String) : IO FileTree := do
  if path.isEmpty then return files
  try
    let bytes ← IO.FS.readBinFile path
    let (_, files) := files.makeDirectories ((Path.parent? path).getD "")
    return (files.write path bytes.toList).toOption.getD files
  catch _ => return files

/-- The lines of the operator up to the end of the input. -/
partial def operatorLines (input : IO.FS.Stream) (seen : Array (Nat × String)) :
    IO (Array (Nat × String)) := do
  let line ← input.getLine
  if line.isEmpty then return seen
  operatorLines input (seen ++ ((Text.lines line).map fun text => (0, text)).toArray)

/-- The connector that the options ask for. -/
def connectorFor (o : Options) : Connector :=
  match o.simulator with
  | program :: arguments =>
    let start := fun _ _ =>
      Except.error { message := "Failed to open a PTY for the simulator" : Failure }
    ({ program, arguments, start } : Simulator).connector
  | [] =>
    let refusal : Failure := { message := "No such file or directory" }
    ({ openFailure := some refusal } : SerialHost).connector

/-- Shows a failure and gives the exit code for it. -/
def refuse (f : Failure) : IO UInt32 := do
  IO.eprintln ("Error: " ++ f.text)
  return 1

/-- Puts the transcript where the run has written it. -/
def saveTranscript (files : FileTree) (path : String) : IO Unit := do
  let directory := (Path.parent? path).getD ""
  unless directory.isEmpty do
    IO.FS.createDirAll directory
  match files.readBytes path with
  | .ok bytes => IO.FS.writeBinFile path ⟨bytes.toArray⟩
  | .error _ => return ()

/-- Runs a session as the options ask. -/
def runOptions (o : Options) : IO UInt32 := do
  let files ← match o.config with
    | some path => addFile {} path
    | none => pure {}
  let loaded := match o.config with
    | some path => files.loadSettings path
    | none => .ok {}
  match loaded with
  | .error f => refuse (f.context "Failed to load settings")
  | .ok settings =>
    let settings := o.apply settings
    let files ← addFile files settings.commandList
    let files ← addFile files settings.commandSequence
    let lines ← operatorLines (← IO.getStdin) #[]
    let picked := o.port.toList.map fun port => (0, port)
    let setup : Setup := { settings, connector := connectorFor o }
    let operator := Operator.ofLines (picked ++ lines.toList) none
    let (ending, stage) := Stage.run setup 86400000 1000000 files operator
    for (_, effect) in stage.world.trace.log do
      if let .shown line := effect then IO.println line
    match ending with
    | .finished (.ok path) => saveTranscript stage.world.files path; return 0
    | .finished (.error f) => refuse (f.context "Session failed")
    | .stopped => refuse { message := "Session failed" }

end BringUp

/-- Runs a session from the command line. -/
def main (words : List String) : IO UInt32 :=
  match BringUp.Options.read {} words with
  | .ok o => BringUp.runOptions o
  | .error e => do
    IO.eprintln ("error: " ++ e.message)
    return 2
