import BringUp.Script.Sequence
import BringUp.Step.Run

/-!
# Engines

An engine walks through a sequence, one entry at a time. Its cursor is the place of the next entry.
It moves on when a step succeeds, and stays when one fails or the connection is lost.
-/

namespace BringUp

/-- What running one entry led to. -/
inductive Advance where
  /-- The step succeeded. -/
  | next
  /-- The step succeeded and asks for the operator. -/
  | pause
  /-- There is no entry left. -/
  | exhausted
  /-- The step failed. -/
  | failed (error : StepError)
  /-- The connection to the device is lost. -/
  | transportClosed

/-- A sequence on its way. -/
structure Engine where
  /-- The commands that entries may name. -/
  commands : List String
  /-- The entries in their order. -/
  entries : List Script.Entry
  /-- The place of the next entry. -/
  cursor : Nat := 0
  deriving Repr, DecidableEq

namespace Engine

/-- The number of entries. -/
def size (e : Engine) : Nat := e.entries.length

/-- The line of an entry. -/
def line (e : Engine) : Script.Entry → Except StepError String
  | .command index =>
    match e.commands[index]? with
    | some command => .ok command
    | none => .error (.missingCommand index)
  | .directive line => .ok line

/-- The step of an entry. -/
def step (e : Engine) (entry : Script.Entry) (v : Variables) : Except StepError Step :=
  match e.line entry with
  | .ok line => Step.ofLine line v
  | .error error => .error error

/-- The step fails: the operator is told, unless the connection is lost. -/
def fail (tools : Tools) (error : StepError) (e : Engine) (r : Rig) : Advance × Engine × Rig :=
  if error.isLoss then (.transportClosed, e, r)
  else (.failed error, e, r.showLine ("\tFAIL: " ++ error.message tools.wording))

/-- The step succeeds: the operator is told of a check, and the cursor moves on. -/
def succeed (isCheck : Bool) (flow : Flow) (e : Engine) (r : Rig) : Advance × Engine × Rig :=
  let told := if isCheck then r.showLine "\tSUCCESS" else r
  let moved := { e with cursor := e.cursor + 1 }
  match flow with
  | .proceed => (.next, moved, told)
  | .pause => (.pause, moved, told)

/-- Runs the entry at the cursor. -/
def runNext (tools : Tools) (e : Engine) (r : Rig) : Advance × Engine × Rig :=
  match e.entries[e.cursor]? with
  | none => (.exhausted, e, r)
  | some entry =>
    let tried := { r with trace := r.trace.record (.tried e.cursor) }
    match e.step entry r.bindings with
    | .error error => e.fail tools error tried
    | .ok step =>
      match step.run tools tried with
      | (.ok flow, after) => e.succeed step.isCheck flow after
      | (.error error, after) => e.fail tools error after

end Engine

end BringUp
