import BringUp.Proofs.Engine.Bisimulation
import BringUp.Proofs.Reply.CatchingUp

/-!
# Engines and how chunks are cut

A device that sends finer chunks at the same moments makes no difference to an engine. Its entries
lead to the same results at the same times, with the same effects and the same variables; only what
is already taken of the replies may differ between two entries, and no more does once the replies
are drained.

* `Device.Finer`: a device that sends the same in finer chunks.
* `Rig.CatchesUp`: rigs that differ in what is already taken only.
* `Rig.catchesUp_bisimulation`: no step can tell such rigs apart.
* `Engine.reports_eq_of_finer`: neither can anything that is done with an engine, whatever the
  device sends by itself meanwhile.
-/

namespace BringUp

open Reply (Arrival Cut)

/-- What a device sends, each thing with its delay. -/
def Emission.sendings (emissions : List Emission) : List (Nat × Arrival) :=
  emissions.map fun e => (e.delay, e.arrival)

/-- A device that does the same as another one, but sends finer chunks. -/
structure Device.Finer (coarse fine : Device) : Prop where
  /-- It refuses the same. -/
  refuses {t : Trace} {octets : List UInt8} {failure : Failure} :
    coarse.respond t octets = .error failure → fine.respond t octets = .error failure
  /-- It sends the same in finer chunks. -/
  sends {t : Trace} {octets : List UInt8} {emissions : List Emission} :
    coarse.respond t octets = .ok emissions → ∃ emissions', fine.respond t octets = .ok emissions' ∧
      Reply.Finer (Emission.sendings emissions) (Emission.sendings emissions')

namespace Link

variable {l : Link} {t : Trace} {line : String} {emissions : List Emission}

/-- The device sends some things to the stream of the link. -/
theorem emit_eq_postAll (now : Nat) (emissions : List Emission) (l : Link) :
    l.emit now emissions =
      { l with replies := l.replies.postAll now (Emission.sendings emissions) } := by
  rw [emit_eq, Reply.Stream.postAll, Reply.Inbox.postAll, Emission.sendings, List.foldl_map]

/-- A line that the device takes is written, and the device answers. -/
theorem send_of_respond (h : l.device.respond t (octets line) = .ok emissions) :
    l.send line t = .ok (t.record (.wrote (octets line)),
      { l with replies := l.replies.postAll t.now (Emission.sendings emissions) }) := by
  rw [send, h, ← emit_eq_postAll]

/-- The stream on which a request waits. -/
theorem listening_eq (now : Nat) (emissions : List Emission) (l : Link) :
    l.listening now emissions =
      (l.replies.arm now).postAll now (Emission.sendings emissions) := by
  rw [listening, emit_eq_postAll]

end Link

namespace Rig

/-- Two rigs that are the same, but that the device of the second one sends finer chunks, and that
more may be taken already on one than on the other. -/
structure CatchesUp (coarse fine : Rig) : Prop where
  /-- The same has happened. -/
  trace : fine.trace = coarse.trace
  /-- The variables are the same. -/
  bindings : fine.bindings = coarse.bindings
  /-- The links are called the same. -/
  name : fine.link.name = coarse.link.name
  /-- The devices do the same. -/
  device : coarse.link.device.Finer fine.link.device
  /-- The replies are the same once they are drained. -/
  replies : coarse.link.replies.CatchesUp coarse.trace.now fine.link.replies

/-- Something happens in both, after which the streams still catch up. -/
theorem CatchesUp.goOn {coarse fine : Rig} (h : CatchesUp coarse fine) (t : Trace)
    {replies replies' : Reply.Stream} (hreplies : replies.CatchesUp t.now replies') :
    CatchesUp { coarse with trace := t, link.replies := replies }
      { fine with trace := t, link.replies := replies' } where
  trace := rfl
  bindings := h.bindings
  name := h.name
  device := h.device
  replies := hreplies

/-- Time may pass. -/
theorem CatchesUp.later {coarse fine : Rig} (h : CatchesUp coarse fine) {t : Trace}
    (hle : coarse.trace.now ≤ t.now) :
    CatchesUp { coarse with trace := t } { fine with trace := t } :=
  h.goOn t (h.replies.mono hle)

/-- A step cannot tell rigs apart that differ in what is already taken only. -/
theorem catchesUp_bisimulation (tools : Tools) : Bisimulation tools tools CatchesUp where
  patternTimeout := rfl
  countTimeout := rfl
  wording := rfl
  bindings h := h.bindings
  withBindings bindings h := ⟨h.trace, rfl, h.name, h.device, h.replies⟩
  record {coarse fine} effect h := by
    rw [h.trace]
    exact h.later (Nat.le_refl coarse.trace.now)
  pass {coarse fine} time h := by
    rw [h.trace]
    exact h.later (Nat.le_add_right coarse.trace.now time)
  call name arguments h := by rw [h.trace]
  send {coarse fine} line h := by
    simp only [Step.run, h.trace]
    cases hrespond : coarse.link.device.respond coarse.trace (Link.octets line) with
    | error failure =>
      rw [Link.send_of_refused hrespond, Link.send_of_refused (h.device.refuses hrespond)]
      exact ⟨rfl, h⟩
    | ok emissions =>
      obtain ⟨emissions', hrespond', hsendings⟩ := h.device.sends hrespond
      rw [Link.send_of_respond hrespond, Link.send_of_respond hrespond']
      exact ⟨rfl, h.goOn _ (h.replies.postAll (Nat.le_refl coarse.trace.now) hsendings)⟩
  request {coarse fine} command wait timeout h := by
    unfold request
    rw [h.trace]
    have harm := h.replies.arm
    cases hrespond : coarse.link.device.respond coarse.trace (Link.octets command) with
    | error failure =>
      rw [Link.request_of_refused hrespond, Link.request_of_refused (h.device.refuses hrespond)]
      exact ⟨rfl, h.goOn _ (.of_alike harm.disarm coarse.trace.now)⟩
    | ok emissions =>
      obtain ⟨emissions', hrespond', hsendings⟩ := h.device.sends hrespond
      rw [Link.request_of_respond hrespond, Link.request_of_respond hrespond',
        Link.listening_eq, Link.listening_eq]
      -- Both waits start on streams that are alike, because arming drains them.
      obtain ⟨after, hawait, hcatch⟩ :=
        (harm.postAll hsendings coarse.trace.now).await rfl rfl wait timeout coarse.trace.now
      rw [hawait]
      exact ⟨rfl, h.goOn _ (hcatch.mono (Nat.le_max_right _ _))⟩

/-- Two rigs that are the same, but that what comes from the device of the second one comes in finer
chunks. -/
structure Finer (coarse fine : Rig) : Prop where
  /-- The same has happened. -/
  trace : fine.trace = coarse.trace
  /-- The variables are the same. -/
  bindings : fine.bindings = coarse.bindings
  /-- The links are called the same. -/
  name : fine.link.name = coarse.link.name
  /-- The devices do the same. -/
  device : coarse.link.device.Finer fine.link.device
  /-- The streams hold the same, and the same is to come. -/
  replies : coarse.link.replies.Alike fine.link.replies

/-- Rigs on which the same has been taken differ no more than others. -/
theorem Finer.catchesUp {coarse fine : Rig} (h : Finer coarse fine) : CatchesUp coarse fine where
  trace := h.trace
  bindings := h.bindings
  name := h.name
  device := h.device
  replies := .of_alike h.replies coarse.trace.now

end Rig

namespace Engine

/-! ### Using an engine -/

/-- Something that is done, or happens, while an engine is used. -/
inductive Action where
  /-- The next entry is run. -/
  | run
  /-- The device sends something by itself. -/
  | send (delay : Nat) (a : Arrival)
  /-- The device hangs up. -/
  | hangUp
  /-- Some time passes. -/
  | pass (time : Nat)
  /-- What has arrived is taken. -/
  | drain

/-- What is seen when an entry has been run. -/
structure Report where
  /-- What it led to. -/
  advance : Advance
  /-- The engine, with its cursor. -/
  engine : Engine
  /-- The time, and all effects so far: what was shown and written, and when. -/
  trace : Trace
  /-- The variables. -/
  bindings : Variables

/-- Does something. Gives a report if an entry is run. -/
def act (tools : Tools) (e : Engine) (r : Rig) : Action → List Report × Engine × Rig
  | .run =>
    let (advance, engine, after) := e.runNext tools r
    ([{ advance, engine, trace := after.trace, bindings := after.bindings }], engine, after)
  | .send delay a =>
    ([], e, { r with link.replies.inbox := r.link.replies.inbox.post r.trace.now delay a })
  | .hangUp => ([], e, { r with link.replies.inbox := r.link.replies.inbox.hangUp })
  | .pass time => ([], e, { r with trace := r.trace.waitUntil (r.trace.now + time) })
  | .drain => ([], e, { r with link.replies := r.link.replies.drain r.trace.now })

/-- Does some things, one after the other. Gives the reports. -/
def actAll (tools : Tools) : List Action → Engine → Rig → List Report × Engine × Rig
  | [], e, r => ([], e, r)
  | action :: actions, e, r =>
    let (reports, engine, after) := e.act tools r action
    let (more, last) := actAll tools actions engine after
    (reports ++ more, last)

/-- The same is done, but the device sends finer chunks. -/
inductive Action.Finer : List Action → List Action → Prop where
  /-- Nothing is done. -/
  | nil : Finer [] []
  /-- The same is done. -/
  | same (action : Action) {rest rest' : List Action} : Finer rest rest' →
      Finer (action :: rest) (action :: rest')
  /-- A chunk is cut. -/
  | cut (delay : Nat) {bytes : List UInt8} {pieces : List (List UInt8)}
      {rest rest' : List Action} : Cut bytes pieces → Finer rest rest' →
      Finer (.send delay (.data bytes) :: rest)
        (pieces.map (fun piece => .send delay (.data piece)) ++ rest')

/-- What is the same about two uses of an engine: the reports, the engines, and that the rigs catch
up. -/
structure SameUse (x x' : List Report × Engine × Rig) : Prop where
  /-- The reports are the same. -/
  reports : x'.1 = x.1
  /-- The engines are the same. -/
  engine : x'.2.1 = x.2.1
  /-- The rigs catch up. -/
  rig : x.2.2.CatchesUp x'.2.2

variable (tools : Tools) {coarse fine : Rig}

/-- One thing is done to both. -/
theorem sameUse_act (h : coarse.CatchesUp fine) (e : Engine) (action : Action) :
    SameUse (e.act tools coarse action) (e.act tools fine action) := by
  cases action with
  | run =>
    obtain ⟨hadvance, hengine, hrig⟩ := (Rig.catchesUp_bisimulation tools).runNext h e
    refine ⟨?_, hengine, hrig⟩
    simp only [act, hadvance, hengine, hrig.trace, hrig.bindings]
  | send delay a =>
    simp only [act, h.trace]
    exact ⟨rfl, rfl,
      h.goOn coarse.trace (h.replies.postAll (Nat.le_refl _) (.refl [(delay, a)]))⟩
  | hangUp =>
    simp only [act, h.trace]
    exact ⟨rfl, rfl, h.goOn coarse.trace h.replies.hangUp⟩
  | pass time =>
    simp only [act, h.trace]
    exact ⟨rfl, rfl, h.later (Nat.le_max_left _ _)⟩
  | drain =>
    simp only [act, h.trace]
    exact ⟨rfl, rfl, h.goOn coarse.trace (.of_alike h.replies coarse.trace.now)⟩

/-- What the device sends by itself is put into the inbox. -/
theorem actAll_send (delay : Nat) (a : Arrival) (actions : List Action) (e : Engine) (r : Rig) :
    e.actAll tools (.send delay a :: actions) r =
      e.actAll tools actions
        { r with link.replies := r.link.replies.postAll r.trace.now [(delay, a)] } := rfl

/-- Chunks that the device sends by itself are put into the inbox. -/
theorem actAll_sends (delay : Nat) (pieces : List (List UInt8)) (actions : List Action)
    (e : Engine) (r : Rig) :
    e.actAll tools (pieces.map (fun piece => .send delay (.data piece)) ++ actions) r =
      e.actAll tools actions
        { r with
          link.replies := r.link.replies.postAll r.trace.now (Reply.piecesAt delay pieces) } := by
  induction pieces generalizing r with
  | nil => rfl
  | cons piece pieces ih =>
    exact ih { r with
      link.replies.inbox := r.link.replies.inbox.post r.trace.now delay (.data piece) }

/-- Some things are done to both, while the device sends finer chunks to the second one. -/
theorem sameUse_actAll (h : coarse.CatchesUp fine) {actions actions' : List Action}
    (hactions : Action.Finer actions actions') (e : Engine) :
    SameUse (e.actAll tools actions coarse) (e.actAll tools actions' fine) := by
  induction hactions generalizing e coarse fine with
  | nil => exact ⟨rfl, rfl, h⟩
  | same action _ ih =>
    obtain ⟨hreports, hengine, hrig⟩ := sameUse_act tools h e action
    have hrest := ih hrig (e.act tools coarse action).2.1
    refine ⟨?_, ?_, ?_⟩
    · simp only [actAll, hreports, hengine, hrest.reports]
    · simp only [actAll, hengine, hrest.engine]
    · simp only [actAll, hengine]
      exact hrest.rig
  | @cut delay bytes pieces rest rest' hcut _ ih =>
    -- The chunk is sent in one action, its pieces in as many as there are.
    have hsent : Reply.Finer [(delay, .data bytes)] (Reply.piecesAt delay pieces) := by
      have hcut' := Reply.Finer.cut delay hcut .nil
      rwa [List.append_nil] at hcut'
    rw [actAll_send, actAll_sends, h.trace]
    exact ih (h.goOn coarse.trace (h.replies.postAll (Nat.le_refl _) hsent)) e

/-- It makes no difference how what the device sends is cut into chunks: the entries that are run
lead to the same at the same times, with the same effects and the same variables, and when the
replies are drained the same has been taken. -/
theorem reports_eq_of_finer (tools : Tools) (e : Engine) {coarse fine : Rig}
    (hrig : coarse.Finer fine) {actions actions' : List Action}
    (hactions : Action.Finer actions actions') :
    (e.actAll tools actions' fine).1 = (e.actAll tools actions coarse).1 ∧
      (e.actAll tools actions' fine).2.1 = (e.actAll tools actions coarse).2.1 ∧
      let after := (e.actAll tools actions coarse).2.2
      let after' := (e.actAll tools actions' fine).2.2
      after'.trace = after.trace ∧ after'.bindings = after.bindings ∧
        (after'.link.replies.drain after'.trace.now).transcript =
          (after.link.replies.drain after.trace.now).transcript := by
  obtain ⟨hreports, hengine, hafter⟩ := sameUse_actAll tools hrig.catchesUp hactions e
  have htranscript := hafter.replies.drain.transcript_eq
  refine ⟨hreports, hengine, hafter.trace, hafter.bindings, ?_⟩
  rw [hafter.trace]
  exact htranscript

/-- A rig with a device that answers every line with the same chunks. -/
def answering (chunks : List (List UInt8)) : Rig where
  link := {
    name := "COM1"
    device := { respond := fun _ _ => .ok (chunks.map fun bytes => { arrival := .data bytes }) } }

/-- A device that answers with pieces of a chunk does what one does that answers with the chunk. -/
theorem finer_answering {bytes : List UInt8} {pieces : List (List UInt8)}
    (h : Cut bytes pieces) : (answering [bytes]).Finer (answering pieces) where
  trace := rfl
  bindings := rfl
  name := rfl
  device := {
    refuses := fun hrefuses => nomatch hrefuses
    sends := fun hsends => by
      refine ⟨_, rfl, ?_⟩
      obtain rfl := Except.ok.inj hsends
      have hpieces : Emission.sendings (pieces.map fun bytes => { arrival := .data bytes }) =
          Reply.piecesAt 0 pieces ++ [] := by
        simp [Emission.sendings, Reply.piecesAt]
      rw [hpieces]
      exact .cut 0 h .nil }
  replies := .refl _

/-- An engine that asks for the status twice. -/
def askingTwice : Engine where
  commands := ["=STATUS==(1)OK"]
  entries := [.command 0, .command 0]

/-- A device that cuts its line ends in two and sends an empty chunk besides, when it is asked and
by itself, is not told from one that sends whole lines. -/
theorem cut_line_end_unnoticed :
    let whole : List UInt8 := [0x4F, 0x4B, 0x0D, 0x0A]
    let pieces : List (List UInt8) := [[0x4F, 0x4B, 0x0D], [], [0x0A]]
    let actions : List Action := [.run, .send 5 (.data whole), .run, .drain]
    let actions' : List Action :=
      .run :: (pieces.map (fun piece => .send 5 (.data piece)) ++ [.run, .drain])
    (answering [whole]).Finer (answering pieces) ∧ Action.Finer actions actions' ∧
      (askingTwice.actAll {} actions' (answering pieces)).1 =
        (askingTwice.actAll {} actions (answering [whole])).1 := by
  intro whole pieces actions actions'
  have hcut : Cut whole pieces :=
    .cons (.of_ascii [0x4F, 0x4B, 0x0D] (b := 0x0A) (by decide) [])
      (.cons (.nil_left [0x0A]) (.self [0x0A]))
  have hrig : (answering [whole]).Finer (answering pieces) := finer_answering hcut
  have hactions : Action.Finer actions actions' :=
    .same .run (.cut 5 hcut (.same .run (.same .drain .nil)))
  exact ⟨hrig, hactions, (reports_eq_of_finer {} askingTwice hrig hactions).1⟩

end Engine

end BringUp
