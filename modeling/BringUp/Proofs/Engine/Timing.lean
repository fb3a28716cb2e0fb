import BringUp.Proofs.Engine.Account

/-!
# When an entry is finished

Two kinds of steps wait: a call for what its function gives, and a comparison for its reply. All
others are finished at once. So the step at the cursor and what it waits for tell at what time
running the entry is finished, whatever comes of it.

* `Rig.requestEnd`, `Rig.now_request`: the end of a request.
* `Step.finish`, `Step.now_run`: the end of a step.
* `Engine.now_runNext`: the end of running the entry at the cursor.
-/

namespace BringUp

open Reply (race)

namespace Rig

variable (command : String) (wait : Reply.Wait) (timeout : Nat) (r : Rig)

/-- The time at which a request is over: that at which the race between the reply, the end of the
connection and the deadline is, unless the device refuses the command. -/
def requestEnd : Nat :=
  match r.link.device.respond r.trace (Link.octets command) with
  | .error _ => r.trace.now
  | .ok emissions =>
    let replies := r.link.listening r.trace.now emissions
    (race r.trace.now timeout (wait.answer? r.trace.now (replies.coming r.trace.now))
      (replies.ending? r.trace.now)).2

theorem now_request :
    (r.request command wait timeout).2.trace.now = r.requestEnd command wait timeout := by
  rw [request, requestEnd]
  cases hrespond : r.link.device.respond r.trace (Link.octets command) with
  | error failure => rw [Link.request_of_refused hrespond]
  | ok emissions =>
    have hstart := r.link.le_ended_listening wait timeout r.trace.now emissions
    rw [Link.request_of_respond hrespond]
    simp only [← Link.ended_listening]
    -- The race begins now, so that the time at its end is still to come.
    exact Nat.max_eq_right hstart

end Rig

namespace Step

/-- The time at which a step is finished that starts on a rig. -/
def finish (tools : Tools) (r : Rig) : Step → Nat
  | .execute x =>
    r.trace.now + (tools.functions.call? x.function x.arguments r.trace).elim 0 Answer.duration
  | .compare c => r.requestEnd c.command c.check.wait (c.check.timeout tools)
  | .pause _ | .print _ | .checkVariable _ | .send _ | .invalid _ => r.trace.now

variable (tools : Tools) (r : Rig)

/-- A call is over when its function gives something, which may be long after. -/
theorem now_run_execute (x : Execution) :
    (x.run tools r).2.trace.now = (execute x).finish tools r := by
  rw [x.run_eq, finish]
  cases tools.functions.call? x.function x.arguments r.trace with
  | none => rfl
  | some answer =>
    obtain ⟨duration, result⟩ := answer
    cases result with
    | error failure => rfl
    | ok text =>
      simp only
      -- The check comes when the time of the call is over.
      cases x.expect.checkCapturing text r.bindings with
      | error error => rfl
      | ok bindings => rfl

/-- A comparison is over when its request is: the check of the reply takes no time. -/
theorem now_run_compare (c : Comparison) :
    (c.run tools r).2.trace.now = (compare c).finish tools r := by
  rw [finish, ← Rig.now_request]
  unfold Comparison.run
  simp only
  split
  · rfl
  · split <;> rfl

theorem now_run (s : Step) : (s.run tools r).2.trace.now = s.finish tools r := by
  cases s with
  | pause text => rfl
  | print text => rfl
  | execute x => exact now_run_execute tools r x
  | compare c => exact now_run_compare tools r c
  | checkVariable check => rfl
  | invalid raw => rfl
  | send line =>
    rw [run, Link.send]
    cases r.link.device.respond r.trace (Link.octets line) with
    | error failure => rfl
    | ok emissions => rfl

end Step

namespace Engine

/-- The time at which running the entry at the cursor is finished. An entry that cannot be read is
finished at once. -/
def finish (tools : Tools) (e : Engine) (r : Rig) : Nat :=
  (e.step? r).elim r.trace.now (Step.finish tools (e.trying r))

/-- Telling the operator how a step ends takes no time. -/
theorem now_conclude (tools : Tools) (isCheck : Bool) (e : Engine)
    (x : Except StepError Flow × Rig) :
    (e.conclude tools isCheck x).2.2.trace.now = x.2.trace.now := by
  obtain ⟨result, after⟩ := x
  cases result with
  | error error => cases hloss : error.isLoss <;> simp [conclude, fail, hloss, Rig.showLine]
  | ok flow => cases isCheck <;> cases flow <;> rfl

/-- Running the entry at the cursor is finished when its step is. -/
theorem now_runNext (tools : Tools) (e : Engine) (r : Rig) :
    (e.runNext tools r).2.2.trace.now = e.finish tools r := by
  rw [runNext_eq, finish]
  unfold step? current?
  cases e.entries[e.cursor]? with
  | none => rfl
  | some entry =>
    simp only [Option.map_some, Option.bind_some]
    cases e.step entry r.bindings with
    -- The engine tells the error of the reading as if a step had failed at once.
    | error error => exact e.now_conclude tools false (.error error, e.trying r)
    | ok step =>
      rw [now_conclude]
      exact step.now_run tools (e.trying r)

end Engine

end BringUp
