import BringUp.Function
import BringUp.Link
import BringUp.Step

/-!
# Running a step

A step runs on a rig: the link to the device, the variables, and the trace of what has happened. It
either succeeds, and says how to go on, or fails with a reason. Whatever it does to the outside is
in the trace, and so is the time that it waits for a function or for the device; variables change
only in a step that succeeds.
-/

namespace BringUp

/-- What a step may use. -/
structure Tools where
  /-- The functions that can be called. -/
  functions : Functions := {}
  /-- How long to wait for a line that a pattern matches. -/
  patternTimeout : Nat := 5000
  /-- How long to wait for a number of lines. -/
  countTimeout : Nat := 1000
  /-- How the faults of patterns are told. -/
  wording : PatternError.Wording := PatternError.briefly

/-- What a step works on. -/
structure Rig where
  /-- What has happened so far. -/
  trace : Trace := {}
  /-- The link to the device. -/
  link : Link
  /-- The values of the variables. -/
  bindings : Variables := {}

/-- How to go on after a step that succeeded. -/
inductive Flow where
  /-- With the next step. -/
  | proceed
  /-- When the operator says so. -/
  | pause
  deriving Repr, DecidableEq

namespace Rig

/-- Shows a line to the operator. -/
def showLine (line : String) (r : Rig) : Rig := { r with trace := r.trace.record (.shown line) }

/-- Calls a function and waits for what it gives. -/
def call (name : String) (arguments : List String) (f : Function) (r : Rig) :
    Except Failure String × Rig :=
  let answer := f r.trace arguments
  let effect := Effect.called name arguments answer.result.toOption
  (answer.result, { r with trace := (r.trace.record effect).pass answer.duration })

/-- Writes a command to the device and waits for the reply. -/
def request (command : String) (wait : Reply.Wait) (timeout : Nat) (r : Rig) :
    Except StepError Reply.Resolved × Rig :=
  let (result, trace, link) := r.link.request command wait timeout r.trace
  (result, { r with trace, link })

end Rig

/-- The lines among what a wait has found. -/
def Reply.Resolved.toLines : Reply.Resolved → List String
  | .lines found => found
  | .matched line => [line]

/-- Calls a function and checks its result. -/
def Execution.run (tools : Tools) (e : Execution) (r : Rig) : Except StepError Flow × Rig :=
  match tools.functions.get? e.function with
  | none => (.error (.unknownFunction e.function), r)
  | some f =>
    let (result, called) := r.call e.function e.arguments f
    match result with
    | .error failure => (.error (.function e.function failure), called)
    | .ok result =>
      match e.expect.checkCapturing result r.bindings with
      | .error error => (.error error, called)
      | .ok bindings => (.ok .proceed, { called with bindings })

/-- Checks a variable. -/
def VariableCheck.run (c : VariableCheck) (v : Variables) : Except StepError Flow :=
  match v.get? c.variableName with
  | none => .error (.unknownVariable c.variableName)
  | some value => (c.expect.check value).map fun _ => .proceed

/-- Checks the lines of a reply. -/
def ReplyCheck.accept (lines : List String) : ReplyCheck → Except StepError Flow
  | .pattern _ => .ok .proceed
  | .contains _ expected =>
    if lines.contains expected then .ok .proceed
    else .error (.mismatch expected (" | ".intercalate lines))
  | .between low high =>
    let reply := lines.headD ""
    if Comparison.within reply low high then .ok .proceed
    else .error (.mismatch ("(" ++ low ++ ", " ++ high ++ ")") reply)

/-- What a check of a reply waits for. -/
def ReplyCheck.wait : ReplyCheck → Reply.Wait
  | .pattern p => .pattern p
  | .contains count _ => .count count
  | .between _ _ => .count 1

/-- How long a check of a reply waits. -/
def ReplyCheck.timeout (tools : Tools) : ReplyCheck → Nat
  | .pattern _ => tools.patternTimeout
  | .contains _ _ | .between _ _ => tools.countTimeout

/-- The variables after a reply is accepted: a pattern captures from the line that it matches. -/
def ReplyCheck.capture (found : Reply.Resolved) (v : Variables) : ReplyCheck → Variables
  | .pattern p =>
    match found with
    | .matched line => (v.capture? p line).getD v
    | .lines _ => v
  | .contains _ _ | .between _ _ => v

/-- Writes a command to the device and checks the reply. -/
def Comparison.run (tools : Tools) (c : Comparison) (r : Rig) : Except StepError Flow × Rig :=
  let (result, after) := r.request c.command c.check.wait (c.check.timeout tools)
  match result with
  | .error error => (.error error, after)
  | .ok found =>
    match c.check.accept found.toLines with
    | .error error => (.error error, after)
    | .ok flow => (.ok flow, { after with bindings := c.check.capture found after.bindings })

/-- Runs a step. -/
def Step.run (tools : Tools) (s : Step) (r : Rig) : Except StepError Flow × Rig :=
  match s with
  | .pause text => (.ok .pause, r.showLine (text ++ " then press any key to continue"))
  | .print text => (.ok .proceed, r.showLine text)
  | .execute execution => execution.run tools r
  | .compare comparison => comparison.run tools r
  | .checkVariable check => (check.run r.bindings, r)
  | .send line =>
    match r.link.send line r.trace with
    | .error failure => (.error (.transport failure), r)
    | .ok (trace, link) => (.ok .proceed, { r with trace, link })
  | .invalid raw => (.error (.invalidCommand raw), r)

end BringUp
