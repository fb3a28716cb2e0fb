import BringUp.Session

/-!
# Running a session

A run takes what happens in the order of its time: lines of the operator, ticks of the clock, and
what arrives from the device. Time passes only when nothing is due. The run is over when the session
has an outcome, or when it waits for an operator who has left. A run that is not over at a given
time is stopped there; nothing that a step would do later has then happened.
-/

namespace BringUp

/-- The operator of a session: lines that are typed at given times, and the time of leaving. -/
structure Operator where
  /-- The lines still to be typed, in their order. -/
  lines : List (Nat × String) := []
  /-- The time at which the operator leaves, once the lines are typed. -/
  leavesAt : Nat := 0
  /-- Whether the operator is still there. -/
  present : Bool := true
  deriving Repr, DecidableEq

namespace Operator

/-- Lines with times that do not decrease: no line comes before an earlier one. -/
def inOrder (earliest : Nat) : List (Nat × String) → List (Nat × String)
  | [] => []
  | (time, line) :: rest => (max earliest time, line) :: inOrder (max earliest time) rest

/-- An operator who types lines at given times and leaves at another time, if it is given, and never
before the last line. -/
def ofLines (lines : List (Nat × String)) (leavesAt : Option Nat) : Operator :=
  let ordered := inOrder 0 lines
  let last := (ordered.getLast?.map Prod.fst).getD 0
  { lines := ordered, leavesAt := max last (leavesAt.getD last) }

end Operator

/-- What a session can be woken by. -/
inductive Occurrence where
  /-- The operator types a line. -/
  | line (text : String)
  /-- The operator leaves. -/
  | operatorLeaves
  /-- The clock ticks. -/
  | tick
  /-- Something arrives from the device. -/
  | arrival
  deriving Repr, DecidableEq

/-- A session with the world and the operator around it. -/
structure Stage where
  /-- The session. -/
  session : Session := {}
  /-- What is outside the session. -/
  world : World := {}
  /-- The operator. -/
  operator : Operator := {}

/-- How a run ends. -/
inductive Ending where
  /-- With the path of the transcript, or with a failure. -/
  | finished (outcome : Except Failure String)
  /-- It was stopped. -/
  | stopped

/-- The earlier of two things that are due; the first if both are due at the same time. -/
def earlier {α : Type} : Option (Nat × α) → Option (Nat × α) → Option (Nat × α)
  | some (t, a), some (u, b) => if t ≤ u then some (t, a) else some (u, b)
  | some a, none => some a
  | none, other => other

namespace Stage

/-- What the operator does next, and when. -/
def operatorDue (s : Stage) : Option (Nat × Occurrence) :=
  if s.operator.present then
    match s.operator.lines with
    | (time, line) :: _ => some (max s.world.now time, .line line)
    | [] => some (max s.world.now s.operator.leavesAt, .operatorLeaves)
  else none

/-- The next tick of the clock. -/
def tickDue (s : Stage) : Option (Nat × Occurrence) :=
  s.session.nextTick.map fun time => (max s.world.now time, .tick)

/-- What arrives next from the device. -/
def arrivalDue (s : Stage) : Option (Nat × Occurrence) :=
  s.session.link.bind fun link =>
    (link.replies.due s.world.now).map fun time => (max s.world.now time, .arrival)

/-- What happens next, and when. -/
def next? (s : Stage) : Option (Nat × Occurrence) :=
  earlier s.operatorDue (earlier s.tickDue s.arrivalDue)

/-- Time passes. -/
def waitUntil (time : Nat) (s : Stage) : Stage :=
  { s with world.trace := s.world.trace.waitUntil time }

/-- Something happens now. -/
def perform (setup : Setup) (s : Stage) : Occurrence → Stage
  | .line text =>
    let (session, world) := s.session.handle setup (.input text) s.world
    { session, world, operator := { s.operator with lines := s.operator.lines.drop 1 } }
  | .operatorLeaves => { s with operator.present := false }
  | .tick =>
    let (session, world) := s.session.tick setup s.world
    { s with session, world }
  | .arrival =>
    let (session, world) := s.session.attend setup s.world
    { s with session, world }

/-- The stage when it was stopped at `time`, while what happened after it was going on. -/
def stoppedAt (time : Nat) (after : Stage) (s : Stage) : Stage :=
  { s with world.trace := { after.world.trace.upTo time with now := time } }

/-- The failure of a session that waits for an operator who has left. -/
def abandoned (state : SessionState) : Failure :=
  { message := "Operator input closed while the session is " ++ state.name }

/-- Whether the run is over, and how. -/
def ending? (s : Stage) : Option (Except Failure String) :=
  match s.session.outcome with
  | some outcome => some outcome
  | none =>
    if !s.operator.present && s.session.state.awaitsInput then
      some (.error (abandoned s.session.state))
    else none

/-- Runs until the end, at most up to the time `limit` and for that many turns. -/
def runFrom (setup : Setup) (limit : Nat) : Nat → Stage → Ending × Stage
  | 0, s => (.stopped, s.stoppedAt limit s)
  | turns + 1, s =>
    match s.ending? with
    | some outcome => (.finished outcome, s)
    | none =>
      match s.next? with
      | none => (.stopped, s.stoppedAt limit s)
      | some (time, occurrence) =>
        if limit < time then (.stopped, s.stoppedAt limit s)
        else
          let after := (s.waitUntil time).perform setup occurrence
          if limit < after.world.now then (.stopped, s.stoppedAt limit after)
          else runFrom setup limit turns after

/-- Starts a session and runs it until the end, at most up to the time `limit`. -/
def run (setup : Setup) (limit turns : Nat) (files : FileTree) (operator : Operator) :
    Ending × Stage :=
  let (session, world) := Session.start setup { files }
  runFrom setup limit turns { session, world, operator }

end Stage

end BringUp
