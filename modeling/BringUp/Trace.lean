/-!
# Traces

A trace is what has happened so far, and when. Time is counted in milliseconds from the start of a
run, and stands still unless something waits. Everything a run does to the outside is an effect in
its trace: lines shown to the operator, octets written to the device, calls of functions, and what
happens to ports and files. The surroundings of a run answer as functions of its trace.

* `log_record`: recording appends one effect at the present time.
-/

namespace BringUp

/-- Something a run does to its surroundings. -/
inductive Effect where
  /-- The step at this place of the sequence is tried. -/
  | tried (index : Nat)
  /-- A line is shown to the operator. -/
  | shown (line : String)
  /-- Octets are written to the device. -/
  | wrote (octets : List UInt8)
  /-- A registered function is called. When the call is over, it gives a text unless it fails. -/
  | called (function : String) (arguments : List String) (result : Option String)
  /-- The ports are listed. -/
  | listed
  /-- A port is asked to open. -/
  | opening (port : String) (baud : Nat)
  /-- A link to the device is opened. -/
  | opened (link : String)
  /-- A link is closed. -/
  | closed
  /-- A script file is read. -/
  | read (path : String)
  /-- The transcript is written to a file, or the attempt is made. -/
  | saving (path : String)
  deriving Repr, DecidableEq

/-- The end of a line on the wire. -/
def lineEnd : String := "\r\n"

/-- What has happened so far, and what time it is. -/
structure Trace where
  /-- The present time. -/
  now : Nat := 0
  /-- The effects with their times, the first one first. -/
  log : List (Nat × Effect) := []
  deriving Repr, DecidableEq, Inhabited

namespace Trace

/-- Something happens now. -/
def record (effect : Effect) (t : Trace) : Trace := { t with log := t.log ++ [(t.now, effect)] }

/-- Lines are shown to the operator, one after the other. -/
def showLines (lines : List String) (t : Trace) : Trace :=
  lines.foldl (fun t line => t.record (.shown line)) t

/-- Time passes up to `time`, or not at all if that is over. -/
def waitUntil (time : Nat) (t : Trace) : Trace := { t with now := max t.now time }

/-- So much time passes. -/
def pass (time : Nat) (t : Trace) : Trace := { t with now := t.now + time }

/-- The trace as it was at `time`: later effects have not happened. -/
def upTo (time : Nat) (t : Trace) : Trace :=
  { now := min t.now time, log := t.log.filter (·.1 ≤ time) }

/-- What was written so far, one writing after the other. -/
def written (t : Trace) : List (List UInt8) :=
  t.log.filterMap fun
    | (_, .wrote octets) => some octets
    | _ => none

/-- Recording appends one effect at the present time. -/
@[simp]
theorem log_record (effect : Effect) (t : Trace) :
    (t.record effect).log = t.log ++ [(t.now, effect)] := rfl

/-- Recording takes no time. -/
@[simp]
theorem now_record (effect : Effect) (t : Trace) : (t.record effect).now = t.now := rfl

/-- Waiting has no effect. -/
@[simp]
theorem log_waitUntil (time : Nat) (t : Trace) : (t.waitUntil time).log = t.log := rfl

@[simp]
theorem log_pass (time : Nat) (t : Trace) : (t.pass time).log = t.log := rfl

@[simp]
theorem now_pass (time : Nat) (t : Trace) : (t.pass time).now = t.now + time := rfl

end Trace

end BringUp
