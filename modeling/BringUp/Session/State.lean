import BringUp.Text.Blank

/-!
# States of a session

What a session does with an event depends on its state alone. A closed connection resets it in every
state; all other events mean something in some states only.
-/

namespace BringUp

/-- The state of a session. -/
inductive SessionState where
  /-- Not started. -/
  | idle
  /-- Listing the ports. -/
  | init
  /-- Waiting for the operator to pick a port. -/
  | awaitTransportSelect
  /-- Waiting for the operator to start the sequence. -/
  | awaitStart
  /-- Running the sequence. -/
  | running
  /-- Held by a pause until the operator goes on. -/
  | awaitContinue
  /-- Waiting for the tick that writes the transcript and ends the run. -/
  | complete
  deriving Repr, DecidableEq

/-- The name of a state. -/
def SessionState.name : SessionState → String
  | .idle => "idle"
  | .init => "init"
  | .awaitTransportSelect => "await-transport-select"
  | .awaitStart => "await-start"
  | .running => "running"
  | .awaitContinue => "await-continue"
  | .complete => "complete"

/-- Whether the state can be left only by a line of the operator, or by a closed connection. -/
def SessionState.awaitsInput : SessionState → Bool
  | .awaitTransportSelect | .awaitStart | .awaitContinue => true
  | .idle | .init | .running | .complete => false

/-- Something that happens to a session. -/
inductive SessionEvent where
  /-- The operator types a line. -/
  | input (line : String)
  /-- The clock ticks. -/
  | tick
  /-- The connection to the device is closed. -/
  | transportClosed
  deriving Repr, DecidableEq

/-- What a session does with an event. -/
inductive Reaction where
  /-- Drop the link and start over. -/
  | reset
  /-- Open a port. -/
  | openPort (port : String)
  /-- Go to a state. -/
  | goTo (state : SessionState)
  /-- Run the next step. -/
  | runStep
  /-- Write the transcript. -/
  | flush
  deriving Repr, DecidableEq

/-- What a session does with an event in a state, if anything. -/
def SessionState.react (state : SessionState) (event : SessionEvent) : Option Reaction :=
  match state, event with
  | _, .transportClosed => some .reset
  | .awaitTransportSelect, .input line => some (.openPort (Text.trim line))
  | .awaitStart, .input _ | .awaitContinue, .input _ => some (.goTo .running)
  | .running, .tick => some .runStep
  | .complete, .tick => some .flush
  | _, _ => none

end BringUp
