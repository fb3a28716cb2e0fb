import BringUp.Engine

/-!
# Rigs that no step can tell apart

A step gets at its rig in few ways: it reads and sets variables, records effects, calls functions
and waits for them, writes lines and makes requests. If each of these gives the same on two rigs,
and leaves two rigs of which that is so again, no step can tell the rigs apart, and neither can an
engine.

* `Rig.Bisimulation`: what a relation between rigs has to keep.
* `Rig.Bisimulation.step`, `Rig.Bisimulation.runNext`: what it keeps then.
-/

namespace BringUp

namespace Link

variable {l : Link} {t : Trace} {line : String} {failure : Failure}

/-- A line that the device refuses is not written. -/
theorem send_of_refused (h : l.device.respond t (octets line) = .error failure) :
    l.send line t = .error failure := by
  rw [send, h]

/-- A request that cannot be written arms the stream in vain. -/
theorem request_of_refused (h : l.device.respond t (octets line) = .error failure)
    (wait : Reply.Wait) (timeout : Nat) :
    l.request line wait timeout t =
      (.error (.transport failure), t, { l with replies := (l.replies.arm t.now).disarm }) := by
  simp only [request, send, h]

end Link

/-- What is the same about two results: the values, and that the rigs are related. -/
structure Rig.Same {α : Type} (R : Rig → Rig → Prop) (x x' : α × Rig) : Prop where
  /-- The values are the same. -/
  value : x'.1 = x.1
  /-- The rigs are related. -/
  rig : R x.2 x'.2

/-- A relation between the rigs of two runs that is kept by all that a step can do to a rig. -/
structure Rig.Bisimulation (tools tools' : Tools) (R : Rig → Rig → Prop) : Prop where
  /-- Both runs wait for a matching line as long. -/
  patternTimeout : tools'.patternTimeout = tools.patternTimeout
  /-- Both runs wait for a number of lines as long. -/
  countTimeout : tools'.countTimeout = tools.countTimeout
  /-- Both tell the faults of patterns in the same words. -/
  wording : tools'.wording = tools.wording
  /-- The variables are the same. -/
  bindings {r r' : Rig} : R r r' → r'.bindings = r.bindings
  /-- Variables may be set. -/
  withBindings {r r' : Rig} (bindings : Variables) :
    R r r' → R { r with bindings } { r' with bindings }
  /-- Effects may be recorded. -/
  record {r r' : Rig} (effect : Effect) : R r r' →
    R { r with trace := r.trace.record effect } { r' with trace := r'.trace.record effect }
  /-- Time may pass. -/
  pass {r r' : Rig} (time : Nat) : R r r' →
    R { r with trace := r.trace.pass time } { r' with trace := r'.trace.pass time }
  /-- Functions give the same, after the same time. -/
  call {r r' : Rig} (name : String) (arguments : List String) : R r r' →
    tools'.functions.call? name arguments r'.trace = tools.functions.call? name arguments r.trace
  /-- Lines may be written. -/
  send {r r' : Rig} (line : String) : R r r' →
    Rig.Same R ((Step.send line).run tools r) ((Step.send line).run tools' r')
  /-- Requests may be made. -/
  request {r r' : Rig} (command : String) (wait : Reply.Wait) (timeout : Nat) : R r r' →
    Rig.Same R (r.request command wait timeout) (r'.request command wait timeout)

/-- Running a call, told by what the call leads to. -/
theorem Execution.run_eq (tools : Tools) (e : Execution) (r : Rig) :
    e.run tools r =
      match tools.functions.call? e.function e.arguments r.trace with
      | none => (.error (.unknownFunction e.function), r)
      | some answer =>
        let effect := Effect.called e.function e.arguments answer.result.toOption
        let called := { r with trace := (r.trace.record effect).pass answer.duration }
        match answer.result with
        | .error failure => (.error (.function e.function failure), called)
        | .ok result =>
          match e.expect.checkCapturing result r.bindings with
          | .error error => (.error error, called)
          | .ok bindings => (.ok .proceed, { called with bindings }) := by
  unfold run Functions.call?
  cases tools.functions.get? e.function with
  | none => rfl
  | some f => rfl

/-- What an engine makes of the result of its step. -/
def Engine.conclude (tools : Tools) (isCheck : Bool) (e : Engine) :
    Except StepError Flow × Rig → Advance × Engine × Rig
  | (.ok flow, after) => e.succeed isCheck flow after
  | (.error error, after) => e.fail tools error after

/-- Running the entry at the cursor, in terms of that. -/
theorem Engine.runNext_eq (tools : Tools) (e : Engine) (r : Rig) :
    e.runNext tools r =
      match e.entries[e.cursor]? with
      | none => (.exhausted, e, r)
      | some entry =>
        let tried := { r with trace := r.trace.record (.tried e.cursor) }
        match e.step entry r.bindings with
        | .error error => e.fail tools error tried
        | .ok step => e.conclude tools step.isCheck (step.run tools tried) := by
  unfold runNext
  cases e.entries[e.cursor]? with
  | none => rfl
  | some entry => rfl

namespace Rig.Bisimulation

variable {tools tools' : Tools} {R : Rig → Rig → Prop} {r r' : Rig}

/-- A line may be shown. -/
theorem showLine (h : Bisimulation tools tools' R) (hr : R r r') (line : String) :
    R (r.showLine line) (r'.showLine line) :=
  h.record (.shown line) hr

theorem execution (h : Bisimulation tools tools' R) (hr : R r r') (e : Execution) :
    Same R (e.run tools r) (e.run tools' r') := by
  rw [e.run_eq, e.run_eq, h.call e.function e.arguments hr]
  obtain ⟨trace, link, bindings⟩ := r
  obtain ⟨trace', link', bindings'⟩ := r'
  obtain rfl : bindings' = bindings := h.bindings hr
  simp only
  cases tools.functions.call? e.function e.arguments trace with
  | none => exact ⟨rfl, hr⟩
  | some answer =>
    obtain ⟨duration, result⟩ := answer
    have hcalled := h.pass duration
      (h.record (.called e.function e.arguments result.toOption) hr)
    cases result with
    | error failure => exact ⟨rfl, hcalled⟩
    | ok result =>
      simp only
      cases e.expect.checkCapturing result bindings' with
      | error error => exact ⟨rfl, hcalled⟩
      | ok bindings => exact ⟨rfl, h.withBindings bindings hcalled⟩

theorem comparison (h : Bisimulation tools tools' R) (hr : R r r') (c : Comparison) :
    Same R (c.run tools r) (c.run tools' r') := by
  have htimeout : c.check.timeout tools' = c.check.timeout tools := by
    cases c.check with
    | pattern p => exact h.patternTimeout
    | contains count expected => exact h.countTimeout
    | between low high => exact h.countTimeout
  -- Both wait for the same and as long, and from then on only what they were given counts.
  obtain ⟨hvalue, hrig⟩ := h.request c.command c.check.wait (c.check.timeout tools) hr
  unfold Comparison.run
  simp only [htimeout, hvalue, h.bindings hrig]
  cases (r.request c.command c.check.wait (c.check.timeout tools)).1 with
  | error error => exact ⟨rfl, hrig⟩
  | ok found =>
    cases haccept : c.check.accept found.toLines with
    | error error =>
      simp only [haccept]
      exact ⟨rfl, hrig⟩
    | ok flow =>
      simp only [haccept]
      exact ⟨rfl, h.withBindings _ hrig⟩

/-- No step can tell the rigs apart. -/
theorem step (h : Bisimulation tools tools' R) (hr : R r r') (s : Step) :
    Same R (s.run tools r) (s.run tools' r') := by
  cases s with
  | pause text => exact ⟨rfl, h.showLine hr _⟩
  | print text => exact ⟨rfl, h.showLine hr _⟩
  | execute execution => exact h.execution hr execution
  | compare comparison => exact h.comparison hr comparison
  | checkVariable check => exact ⟨congrArg check.run (h.bindings hr), hr⟩
  | send line => exact h.send line hr
  | invalid raw => exact ⟨rfl, hr⟩

/-- What is the same about two advances: how they end, the engines, and that the rigs are
related. -/
structure SameAdvance (R : Rig → Rig → Prop) (x x' : Advance × Engine × Rig) : Prop where
  /-- The advances end in the same way. -/
  advance : x'.1 = x.1
  /-- The engines are the same. -/
  engine : x'.2.1 = x.2.1
  /-- The rigs are related. -/
  rig : R x.2.2 x'.2.2

theorem fail (h : Bisimulation tools tools' R) (hr : R r r') (error : StepError) (e : Engine) :
    SameAdvance R (e.fail tools error r) (e.fail tools' error r') := by
  unfold Engine.fail
  rw [h.wording]
  cases error.isLoss with
  | true => exact ⟨rfl, rfl, hr⟩
  | false => exact ⟨rfl, rfl, h.showLine hr _⟩

theorem succeed (h : Bisimulation tools tools' R) (hr : R r r') (isCheck : Bool) (flow : Flow)
    (e : Engine) : SameAdvance R (e.succeed isCheck flow r) (e.succeed isCheck flow r') := by
  have htold : R (if isCheck then r.showLine "\tSUCCESS" else r)
      (if isCheck then r'.showLine "\tSUCCESS" else r') := by
    cases isCheck with
    | true => exact h.showLine hr _
    | false => exact hr
  cases flow with
  | proceed => exact ⟨rfl, rfl, htold⟩
  | pause => exact ⟨rfl, rfl, htold⟩

/-- The engine goes on from results that are the same. -/
theorem conclude (h : Bisimulation tools tools' R) {x x' : Except StepError Flow × Rig}
    (hx : Same R x x') (isCheck : Bool) (e : Engine) :
    SameAdvance R (e.conclude tools isCheck x) (e.conclude tools' isCheck x') := by
  obtain ⟨result, after⟩ := x
  obtain ⟨result', after'⟩ := x'
  obtain rfl : result' = result := hx.value
  cases result' with
  | ok flow => exact h.succeed hx.rig isCheck flow e
  | error error => exact h.fail hx.rig error e

/-- No engine can tell the rigs apart. -/
theorem runNext (h : Bisimulation tools tools' R) (hr : R r r') (e : Engine) :
    SameAdvance R (e.runNext tools r) (e.runNext tools' r') := by
  rw [e.runNext_eq, e.runNext_eq, h.bindings hr]
  cases e.entries[e.cursor]? with
  | none => exact ⟨rfl, rfl, hr⟩
  | some entry =>
    -- An entry is read with the variables, so that both read the same step.
    have htried := h.record (.tried e.cursor) hr
    rw [h.bindings hr] at htried
    simp only
    cases e.step entry r.bindings with
    | error error => exact h.fail htried error e
    | ok step => exact h.conclude (h.step htried step) step.isCheck e

end Rig.Bisimulation

end BringUp
