import BringUp.Engine
import BringUp.Port
import BringUp.Script.Load
import BringUp.Session.State

/-!
# Sessions

A session is one run of a sequence against one device: the operator picks a port and starts the
sequence, the steps are run one at each tick, and at the end the transcript of the device is written
to a file. A session handles one event at a time, and a step that waits for the device or for a
function holds it.

What a session is given for good is its setup; what it changes outside is the world: the trace of
what has happened, and the files.
-/

namespace BringUp

/-- What a session is given. -/
structure Setup where
  /-- The settings. -/
  settings : Settings := {}
  /-- The functions that the sequence can call. -/
  functions : Functions := {}
  /-- Finds and opens ports. -/
  connector : Connector
  /-- The day, as a name for a transcript that has none. -/
  today : String := ""
  /-- How the faults of patterns are told. -/
  wording : PatternError.Wording := PatternError.briefly

/-- What the steps of a sequence may use. -/
def Setup.tools (setup : Setup) : Tools where
  functions := setup.functions
  patternTimeout := setup.settings.patternTimeout
  countTimeout := setup.settings.countTimeout
  wording := setup.wording

/-- What is outside a session. -/
structure World where
  /-- What has happened so far. -/
  trace : Trace := {}
  /-- The files. -/
  files : FileTree := {}

/-- Something is done in the world. -/
def World.record (effect : Effect) (w : World) : World := { w with trace := w.trace.record effect }

/-- Lines are shown to the operator. -/
def World.showLines (lines : List String) (w : World) : World :=
  { w with trace := w.trace.showLines lines }

/-- The present time. -/
def World.now (w : World) : Nat := w.trace.now

/-- A session between two events. -/
structure Session where
  /-- The state. -/
  state : SessionState := .idle
  /-- The values of the variables. -/
  bindings : Variables := {}
  /-- The sequence, once it is loaded. -/
  engine : Option Engine := none
  /-- The link to the device, while one is open. -/
  link : Option Link := none
  /-- The time of the next tick, if the clock is armed. -/
  nextTick : Option Nat := none
  /-- How the run ended, once it has: the path of the transcript, or why there is none. -/
  outcome : Option (Except Failure String) := none

/-- The link for a connection that is opened at `now`. -/
def Connection.link (now : Nat) (c : Connection) : Link :=
  ({ name := c.name, device := c.device } : Link).emit now c.greeting

namespace Session

/-- The place of the next entry, once a sequence is loaded. -/
def cursor? (s : Session) : Option Nat := s.engine.map Engine.cursor

/-- How a failure is shown to the operator. -/
def errorLine (failure : Failure) : String := "Error: " ++ failure.text

/-- Lists the ports for the operator. -/
def listPorts (setup : Setup) (w : World) : World :=
  let listed := w.record .listed
  match setup.connector.discover w.trace with
  | .ok ports => listed.showLines ("Please type your port selection:" :: ports.map Port.label)
  | .error failure => listed.showLines [errorLine failure]

/-- Loads the sequence and arms the clock to tick at once. -/
def load (setup : Setup) (w : World) (s : Session) : Option Failure × Session × World :=
  let w := w.record (.read setup.settings.commandList)
  match w.files.loadCommandList setup.settings.commandList with
  | .error failure => (some failure, s, w)
  | .ok commands =>
    let w := w.record (.read setup.settings.commandSequence)
    match w.files.loadSequence setup.settings.commandSequence with
    | .error failure => (some failure, s, w)
    | .ok entries =>
      (none, { s with engine := some { commands, entries }, nextTick := some w.now }, w)

/-- Goes to a state and does what entering it asks for. Entering `init` forgets all that belongs to
a connection, lists the ports and goes on at once; entering `running` loads the sequence, unless the
clock is armed; entering `complete` arms the clock. -/
def moveTo (setup : Setup) (next : SessionState) (w : World) (s : Session) :
    Option Failure × Session × World :=
  if s.state = next then (none, s, w)
  else
    match next with
    | .init =>
      (none,
        { s with
          state := .awaitTransportSelect
          bindings := {}
          engine := none
          nextTick := none },
        listPorts setup w)
    | .running =>
      if s.nextTick.isSome then (none, { s with state := .running }, w)
      else load setup w { s with state := .running }
    | .complete =>
      (none, { s with state := .complete, nextTick := s.nextTick.or (some w.now) }, w)
    | .idle | .awaitTransportSelect | .awaitStart | .awaitContinue =>
      (none, { s with state := next }, w)

/-- Opens a port. The operator may pick again if that fails. -/
def openPort (setup : Setup) (port : String) (w : World) (s : Session) :
    Option Failure × Session × World :=
  let asked := w.record (.opening port setup.settings.baud)
  match setup.connector.connect w.trace port setup.settings.baud with
  | .error failure => (none, s, asked.showLines [errorLine failure])
  | .ok connection =>
    let w := (asked.record (.opened connection.name)).showLines
      ["Opened " ++ connection.name, "Press any key to start the sequence"]
    moveTo setup .awaitStart w { s with link := some (connection.link w.now) }

/-- Closes the link, if one is open. That it cannot be closed makes no difference. -/
def closeLink (w : World) (s : Session) : Session × World :=
  match s.link with
  | none => (s, w)
  | some link => ({ s with link := none }, { w with trace := (link.close w.trace).2 })

/-- Drops the link and starts over. -/
def reset (setup : Setup) (w : World) (s : Session) : Option Failure × Session × World :=
  let (s, w) := closeLink (w.showLines ["Port closed"]) { s with nextTick := none }
  moveTo setup .init w s

/-- Runs the next step of the sequence. The clock is armed anew when the step is over. -/
def runStep (setup : Setup) (w : World) (s : Session) : Option Failure × Session × World :=
  let s := { s with nextTick := none }
  match s.engine, s.link with
  | none, _ => (some { message := "No sequence loaded" }, s, w)
  | some _, none => (some { message := "Sequence is running without a transport" }, s, w)
  | some engine, some link =>
    let (advance, engine, rig) :=
      engine.runNext setup.tools { trace := w.trace, link, bindings := s.bindings }
    let w := { w with trace := rig.trace }
    let s := { s with engine := some engine, link := some rig.link, bindings := rig.bindings }
    let armed := { s with nextTick := some (w.now + setup.settings.stepInterval) }
    match advance with
    | .next => (none, armed, w)
    | .pause => moveTo setup .awaitContinue w armed
    | .exhausted | .failed _ => moveTo setup .complete w armed
    | .transportClosed => reset setup w s

/-- Writes a transcript into a file, whose directory is made if need be. -/
def writeTranscript (path transcript : String) (files : FileTree) : Option Failure × FileTree :=
  let directory := (Path.parent? path).getD ""
  match files.makeDirectories directory with
  | (some e, files) =>
    (some { message := "Failed to create output directory: " ++ directory, causes := [e.message] },
      files)
  | (none, files) =>
    match files.write path (Text.Utf8.encode transcript) with
    | .error e =>
      (some { message := "Failed to write transcript: " ++ path, causes := [e.message] }, files)
    | .ok files => (none, files)

/-- All that the device has sent up to now, as text. -/
def transcript (now : Nat) (s : Session) : String :=
  match s.link with
  | none => ""
  | some link => (link.replies.drain now).transcript

/-- Writes the transcript, closes the link and ends the run. -/
def flush (setup : Setup) (w : World) (s : Session) : Session × World :=
  let path := setup.settings.transcriptPath setup.today
  let (failure, files) := writeTranscript path (s.transcript w.now) w.files
  let (s, w) := closeLink { w.record (.saving path) with files } { s with nextTick := none }
  match failure with
  | some failure => ({ s with outcome := some (.error failure) }, w)
  | none => ({ s with outcome := some (.ok path) }, w.showLines ["Sequence Complete"])

/-- Does what an event asks for in the state of the session. -/
def dispatch (setup : Setup) (event : SessionEvent) (w : World) (s : Session) :
    Option Failure × Session × World :=
  match s.state.react event with
  | none => (none, s, w)
  | some .reset => reset setup w s
  | some (.openPort port) => openPort setup port w s
  | some (.goTo state) => moveTo setup state w s
  | some .runStep => runStep setup w s
  | some .flush => (none, flush setup w s)

/-- Handles an event. A failure is shown to the operator and completes the run. -/
def handle (setup : Setup) (event : SessionEvent) (w : World) (s : Session) : Session × World :=
  match dispatch setup event w s with
  | (none, s, w) => (s, w)
  | (some failure, s, w) => (moveTo setup .complete (w.showLines [errorLine failure]) s).2

/-- A session that has just started. -/
def start (setup : Setup) (w : World) : Session × World := (moveTo setup .init w {}).2

/-- The clock ticks. It is armed anew before the tick is handled. -/
def tick (setup : Setup) (w : World) (s : Session) : Session × World :=
  handle setup .tick w { s with nextTick := some (w.now + setup.settings.stepInterval) }

/-- The link is looked at: what has arrived is taken, and a closed connection is handled. -/
def attend (setup : Setup) (w : World) (s : Session) : Session × World :=
  match s.link with
  | none => (s, w)
  | some link =>
    match link.replies.pump? w.now with
    | none => (s, w)
    | some (true, replies) => ({ s with link := some { link with replies } }, w)
    | some (false, replies) =>
      handle setup .transportClosed w { s with link := some { link with replies } }

end Session

end BringUp
