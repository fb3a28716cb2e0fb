import BringUp.Proofs.Engine.Bisimulation
import BringUp.Proofs.Reply.Race
import BringUp.Proofs.Reply.Shift

/-!
# Engines that start later

What surrounds a run answers as functions of what has happened so far. Seen from a moment of the
run, it answers as functions of what happens from then on. An engine that starts at that moment does
what an engine would do there from the start of a run, later by as much.

* `Trace.append`: one trace behind another.
* `Device.after`, `Functions.after`: the surroundings, seen from a moment on.
* `Rig.Resumes`: a rig in the middle of a run, and one at the start of a run.
* `Rig.resumes_bisimulation`: no step can tell them apart.
-/

namespace BringUp

namespace Trace

/-- One trace behind another: it starts at the present of the other. -/
def append (past t : Trace) : Trace where
  now := past.now + t.now
  log := past.log ++ t.log.map fun entry => (past.now + entry.1, entry.2)

instance : Append Trace := ⟨append⟩

variable (past t : Trace)

@[simp]
theorem now_append : (past ++ t).now = past.now + t.now := rfl

theorem log_append :
    (past ++ t).log = past.log ++ t.log.map fun entry => (past.now + entry.1, entry.2) := rfl

/-- Nothing has happened since. -/
theorem append_empty : past ++ ({} : Trace) = past := by
  show ({ now := past.now + 0, log := past.log ++ [] } : Trace) = past
  rw [List.append_nil, Nat.add_zero]

/-- What happens is recorded at the end. -/
theorem append_record (effect : Effect) :
    past ++ t.record effect = (past ++ t).record effect := by
  have hlog : (past ++ t.record effect).log = ((past ++ t).record effect).log := by
    simp [log_append]
  exact congrArg (Trace.mk (past.now + t.now)) hlog

/-- Lines are shown at the end. -/
theorem append_showLines (lines : List String) :
    past ++ t.showLines lines = (past ++ t).showLines lines := by
  induction lines generalizing t with
  | nil => rfl
  | cons line lines ih =>
    have hrest := ih (t.record (.shown line))
    rwa [append_record] at hrest

/-- Time passes at the end. -/
theorem append_waitUntil (time : Nat) :
    past ++ t.waitUntil time = (past ++ t).waitUntil (past.now + time) := by
  have hnow : past.now + max t.now time = max (past.now + t.now) (past.now + time) :=
    (Nat.add_max_add_left _ _ _).symm
  exact congrArg (fun now => Trace.mk now (past ++ t).log) hnow

/-- So much time passes at the end. -/
theorem append_pass (time : Nat) : past ++ t.pass time = (past ++ t).pass time :=
  congrArg (fun now => Trace.mk now (past ++ t).log) (Nat.add_assoc _ _ _).symm

end Trace

/-! ### The surroundings from a moment on -/

/-- A device, seen from the end of a trace on. -/
def Device.after (past : Trace) (d : Device) : Device where
  respond t octets := d.respond (past ++ t) octets
  close t := d.close (past ++ t)

/-- Functions, seen from the end of a trace on. -/
def Functions.after (past : Trace) (fs : Functions) : Functions where
  entries := fs.entries.map fun entry => (entry.1, fun t arguments => entry.2 (past ++ t) arguments)

/-- What steps may use, seen from the end of a trace on. -/
def Tools.after (past : Trace) (tools : Tools) : Tools :=
  { tools with functions := tools.functions.after past }

/-- A function answers as it would at the end of the trace. -/
theorem Functions.call?_after (past t : Trace) (name : String) (arguments : List String)
    (fs : Functions) :
    (fs.after past).call? name arguments t = fs.call? name arguments (past ++ t) := by
  obtain ⟨entries⟩ := fs
  unfold call? Table.get? after
  induction entries with
  | nil => rfl
  | cons entry rest ih =>
    -- A function is found by its name alone, whatever it is told of the past.
    obtain ⟨key, f⟩ := entry
    by_cases hname : name = key
    · subst hname
      simp
    · simp only [List.map_cons, List.lookup_cons, beq_eq_false_iff_ne.2 hname]
      exact ih

/-! ### Links and rigs -/

/-- A link `l` in the middle of a run, at whose start `past` has happened, and a link `l'` at the
start of a run whose surroundings are those from there on. -/
structure Link.Resumes (past : Trace) (l l' : Link) : Prop where
  /-- They are called the same. -/
  name : l'.name = l.name
  /-- They lead to the same device. -/
  device : l'.device = l.device.after past
  /-- Their streams are the same, one of them later. -/
  replies : l.replies = l'.replies.later past.now

namespace Link.Resumes

variable {past : Trace} {l l' : Link}

/-- The device answers the same. -/
theorem respond_eq (h : l.Resumes past l') (t : Trace) (octets : List UInt8) :
    l'.device.respond t octets = l.device.respond (past ++ t) octets := by
  rw [h.device]
  rfl

/-- Both get other streams. -/
theorem withReplies (h : l.Resumes past l') {replies replies' : Reply.Stream}
    (hreplies : replies = replies'.later past.now) :
    ({ l with replies } : Link).Resumes past { l' with replies := replies' } :=
  ⟨h.name, h.device, hreplies⟩

/-- What a device sends arrives later. -/
theorem emit (h : l.Resumes past l') (now : Nat) (emissions : List Emission) :
    (l.emit (past.now + now) emissions).Resumes past (l'.emit now emissions) := by
  induction emissions generalizing l l' with
  | nil => exact h
  | cons e emissions ih =>
    refine ih (h.withReplies ?_)
    rw [h.replies]
    show ({ l'.replies with
      inbox := (l'.replies.inbox.later past.now).post _ _ _ } : Reply.Stream) = _
    rw [Reply.Inbox.post_later]
    rfl

/-- Both are armed. -/
theorem arm (h : l.Resumes past l') (now : Nat) :
    l.replies.arm (past.now + now) = (l'.replies.arm now).later past.now := by
  rw [h.replies, Reply.Stream.arm_later]

/-- Requests wait on the same streams. -/
theorem listening (h : l.Resumes past l') (now : Nat) (emissions : List Emission) :
    l.listening (past.now + now) emissions = (l'.listening now emissions).later past.now :=
  ((h.withReplies (h.arm now)).emit now emissions).replies

end Link.Resumes

namespace Rig

/-- A rig `r` in the middle of a run, at whose start `past` has happened, and a rig `r'` at the
start of a run whose surroundings are those from there on. -/
structure Resumes (past : Trace) (r r' : Rig) : Prop where
  /-- The same has happened since. -/
  trace : r.trace = past ++ r'.trace
  /-- The variables are the same. -/
  bindings : r'.bindings = r.bindings
  /-- The links are the same. -/
  link : r.link.Resumes past r'.link

/-- No step can tell that it is in the middle of a run. -/
theorem resumes_bisimulation (past : Trace) (tools : Tools) :
    Bisimulation tools (tools.after past) (Resumes past) where
  patternTimeout := rfl
  countTimeout := rfl
  wording := rfl
  bindings h := h.bindings
  withBindings bindings h := ⟨h.trace, rfl, h.link⟩
  record {r r'} effect h := by
    refine ⟨?_, h.bindings, h.link⟩
    rw [Trace.append_record, h.trace]
  pass {r r'} time h := by
    refine ⟨?_, h.bindings, h.link⟩
    rw [Trace.append_pass, h.trace]
  call {r r'} name arguments h := by
    rw [h.trace]
    exact Functions.call?_after past r'.trace name arguments tools.functions
  send {r r'} line h := by
    have hrespond := h.link.respond_eq r'.trace (Link.octets line)
    rw [← h.trace] at hrespond
    unfold Step.run Link.send
    simp only [hrespond]
    cases r.link.device.respond r.trace (Link.octets line) with
    | error failure => exact ⟨rfl, h⟩
    | ok emissions =>
      refine ⟨rfl, ?_, h.bindings, ?_⟩
      · rw [Trace.append_record, h.trace]
      · have hemit := h.link.emit r'.trace.now emissions
        rwa [← Trace.now_append, ← h.trace] at hemit
  request {r r'} command wait timeout h := by
    have hrespond' := h.link.respond_eq r'.trace (Link.octets command)
    rw [← h.trace] at hrespond'
    have hnow : r.trace.now = past.now + r'.trace.now := congrArg Trace.now h.trace
    unfold request
    cases hrespond : r.link.device.respond r.trace (Link.octets command) with
    | error failure =>
      rw [hrespond] at hrespond'
      rw [Link.request_of_refused hrespond, Link.request_of_refused hrespond']
      refine ⟨rfl, h.trace, h.bindings, h.link.withReplies ?_⟩
      rw [hnow, h.link.arm, Reply.Stream.disarm_later]
    | ok emissions =>
      rw [hrespond] at hrespond'
      rw [Link.request_of_respond hrespond, Link.request_of_respond hrespond', hnow,
        h.link.listening, Reply.Stream.await_later]
      refine ⟨rfl, ?_, h.bindings, h.link.withReplies rfl⟩
      simp only [Trace.append_waitUntil, Trace.append_record, h.trace]

end Rig

end BringUp
