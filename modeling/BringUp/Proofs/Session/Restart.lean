import BringUp.Proofs.Engine.Atomicity
import BringUp.Proofs.Session.Coherence
import BringUp.Proofs.Session.Resuming

/-!
# A lost connection is a fresh start

A session that has noticed that its connection is lost starts over. From then on it cannot be told
from a session that has just started: whatever happens, in whatever order, both do the same, one of
them later by the time that had passed. Nothing that belonged to the lost connection is left.

* `Stage.NoticesLoss`: how a session notices that.
* `Stage.Resumes`: a stage in the middle of a run, and one at the start of a run.
* `Stage.Resumes.play`, `Stage.Resumes.runFrom`: what happens to both.
* `Stage.fresh_after_loss`: a session that starts over is a session that has just started.
-/

namespace BringUp

/-- What the operator still does, at times counted from `n` on. -/
def Operator.since (n : Nat) (o : Operator) : Operator where
  lines := o.lines.map fun line => (line.1 - n, line.2)
  leavesAt := o.leavesAt - n
  present := o.present

/-- Something that happens, at a time counted from `n` on. -/
def Happening.since (n : Nat) : Happening → Happening
  | .wait time => .wait (time - n)
  | .send delay a => .send delay a
  | .hangUp => .hangUp
  | .change files => .change files
  | .wake o => .wake o

namespace Stage

/-- A stage `s` in the middle of a run, at whose start `past` has happened, and a stage `s'` at the
start of a run whose surroundings are those from there on. -/
structure Resumes (past : Trace) (s s' : Stage) : Prop where
  /-- The sessions. -/
  session : s.session.Resumes past s'.session
  /-- The worlds. -/
  world : s.world.Resumes past s'.world
  /-- The operator does the same. -/
  operator : s'.operator = s.operator.since past.now

namespace Resumes

variable {past : Trace} {s s' : Stage}

/-- Time passes for both. -/
theorem waitUntil (h : s.Resumes past s') (time : Nat) :
    (s.waitUntil time).Resumes past (s'.waitUntil (time - past.now)) := by
  refine ⟨h.session, ⟨?_, h.world.files⟩, h.operator⟩
  have hnow : s.world.trace.now = past.now + s'.world.trace.now := h.world.now_eq
  have htime : max s.world.trace.now time =
      max s.world.trace.now (past.now + (time - past.now)) := by omega
  show s.world.trace.waitUntil time = past ++ s'.world.trace.waitUntil (time - past.now)
  rw [Trace.append_waitUntil, ← h.world.trace, Trace.waitUntil, htime]
  rfl

/-- What the device is about to send changes for both. -/
theorem withInbox (h : s.Resumes past s') {change change' : Reply.Inbox → Reply.Inbox}
    (hchange : ∀ i, change (i.later past.now) = (change' i).later past.now) :
    (s.withInbox change).Resumes past (s'.withInbox change') := by
  refine ⟨h.session.withLink ?_, h.world, h.operator⟩
  rcases h.session.link_cases with ⟨hnone, hnone'⟩ | ⟨l, l', hlink, hlink', hresumes⟩
  · rw [hnone, hnone']
    exact .none
  · rw [hlink, hlink', Option.map_some, Option.map_some]
    refine .some (hresumes.withReplies ?_)
    rw [hresumes.replies]
    show ({ l'.replies with inbox := change (l'.replies.inbox.later past.now) } : Reply.Stream) = _
    rw [hchange]
    rfl

/-- Both runs are over in the same way, or neither is. -/
theorem ending?_eq (h : s.Resumes past s') : s'.ending? = s.ending? := by
  have hpresent : s'.operator.present = s.operator.present := by
    rw [h.operator]
    rfl
  rw [ending?, ending?, h.session.outcome, h.session.state, hpresent]

/-- The same can wake both. -/
theorem allows_iff (h : s.Resumes past s') (o : Occurrence) : s'.Allows o ↔ s.Allows o := by
  have hpresent : s'.operator.present = s.operator.present := by
    rw [h.operator]
    rfl
  have htick : s'.session.nextTick.isSome = s.session.nextTick.isSome := by
    rw [h.session.nextTick, Option.isSome_map]
  unfold Allows
  rw [h.ending?_eq, hpresent, htick]

variable (setup : Setup)

/-- Both are woken. -/
theorem perform (h : s.Resumes past s') (o : Occurrence) :
    (s.perform setup o).Resumes past (s'.perform (setup.after past) o) := by
  cases o with
  | line text =>
    obtain ⟨hsession, hworld⟩ := h.session.handle setup h.world (.input text)
    refine ⟨hsession, hworld, ?_⟩
    show ({ s'.operator with lines := s'.operator.lines.drop 1 } : Operator) = _
    rw [h.operator]
    simp [Operator.since, Stage.perform]
  | operatorLeaves =>
    refine ⟨h.session, h.world, ?_⟩
    show ({ s'.operator with present := false } : Operator) = _
    rw [h.operator]
    rfl
  | tick =>
    obtain ⟨hsession, hworld⟩ := h.session.tick setup h.world
    exact ⟨hsession, hworld, h.operator⟩
  | arrival =>
    obtain ⟨hsession, hworld⟩ := h.session.attend setup h.world
    exact ⟨hsession, hworld, h.operator⟩

/-- Something happens to both. -/
theorem happen (h : s.Resumes past s') (happening : Happening) :
    (s.happen setup happening).Resumes past
      (s'.happen (setup.after past) (happening.since past.now)) := by
  cases happening with
  | wait time => exact h.waitUntil time
  | send delay a =>
    refine h.withInbox fun i => ?_
    rw [h.world.now_eq]
    exact i.post_later past.now s'.world.now delay a
  | hangUp => exact h.withInbox fun i => rfl
  | change files => exact ⟨h.session, h.world.withFiles files, h.operator⟩
  | wake o =>
    by_cases hallows : s.Allows o
    · have hallows' : s'.Allows o := (h.allows_iff o).2 hallows
      simp only [Happening.since, Stage.happen, if_pos hallows, if_pos hallows']
      exact h.perform setup o
    · have hallows' : ¬ s'.Allows o := fun hallows' => hallows ((h.allows_iff o).1 hallows')
      simp only [Happening.since, Stage.happen, if_neg hallows, if_neg hallows']
      exact h

/-- Things happen to both, one after the other. -/
theorem play (h : s.Resumes past s') (happenings : List Happening) :
    (s.play setup happenings).Resumes past
      (s'.play (setup.after past) (happenings.map (·.since past.now))) := by
  induction happenings generalizing s s' with
  | nil => exact h
  | cons happening happenings ih => exact ih (h.happen setup happening)

/-! ### Runs -/

/-- What the operator does next is the same, at its time. -/
theorem operatorDue_eq (h : s.Resumes past s') :
    s.operatorDue = s'.operatorDue.map fun due => (past.now + due.1, due.2) := by
  have hmax (time : Nat) :
      max s.world.now time = past.now + max s'.world.now (time - past.now) := by
    rw [h.world.now_eq]
    omega
  unfold operatorDue
  rw [h.operator]
  obtain ⟨lines, leavesAt, present⟩ := s.operator
  cases present with
  | false => rfl
  | true =>
    cases lines with
    | nil => simp [Operator.since, hmax]
    | cons line lines => simp [Operator.since, hmax]

/-- The clock ticks next at its time. -/
theorem tickDue_eq (h : s.Resumes past s') :
    s.tickDue = s'.tickDue.map fun due => (past.now + due.1, due.2) := by
  unfold tickDue
  rw [h.session.nextTick, Option.map_map, Option.map_map, h.world.now_eq]
  refine congrArg (fun f => s'.session.nextTick.map f) (funext fun time => ?_)
  simp [Nat.add_max_add_left]

/-- The same arrives next, at its time. -/
theorem arrivalDue_eq (h : s.Resumes past s') :
    s.arrivalDue = s'.arrivalDue.map fun due => (past.now + due.1, due.2) := by
  unfold arrivalDue
  rcases h.session.link_cases with ⟨hnone, hnone'⟩ | ⟨l, l', hlink, hlink', hresumes⟩
  · rw [hnone, hnone']
    rfl
  · rw [hlink, hlink', Option.bind_some, Option.bind_some, hresumes.replies, h.world.now_eq,
      Reply.Stream.due_later, Option.map_map, Option.map_map]
    refine congrArg (fun f => (l'.replies.due s'.world.now).map f) (funext fun time => ?_)
    simp [Nat.add_max_add_left]

/-- The same happens next, at its time. -/
theorem next?_eq (h : s.Resumes past s') :
    s.next? = s'.next?.map fun due => (past.now + due.1, due.2) := by
  have hearlier {α : Type} (a b : Option (Nat × α)) :
      earlier (a.map fun due => (past.now + due.1, due.2))
          (b.map fun due => (past.now + due.1, due.2)) =
        (earlier a b).map fun due => (past.now + due.1, due.2) := by
    cases a with
    | none => cases b <;> rfl
    | some due =>
      cases b with
      | none => rfl
      | some due' =>
        simp only [Option.map_some, earlier, Nat.add_le_add_iff_left]
        split_ifs <;> rfl
  rw [next?, next?, h.operatorDue_eq, h.tickDue_eq, h.arrivalDue_eq, hearlier, hearlier]

/-- Runs from both end in the same way. -/
theorem runFrom (h : s.Resumes past s') (limit turns : Nat) :
    (Stage.runFrom (setup.after past) limit turns s').1 =
        (Stage.runFrom setup (past.now + limit) turns s).1 ∧
      ∀ outcome, (Stage.runFrom (setup.after past) limit turns s').1 = .finished outcome →
        (Stage.runFrom setup (past.now + limit) turns s).2.Resumes past
          (Stage.runFrom (setup.after past) limit turns s').2 := by
  induction turns generalizing s s' with
  | zero => exact ⟨rfl, by simp [Stage.runFrom]⟩
  | succ turns ih =>
    rw [Stage.runFrom, Stage.runFrom, h.ending?_eq, h.next?_eq]
    cases s.ending? with
    | some outcome => exact ⟨rfl, fun _ _ => h⟩
    | none =>
      cases s'.next? with
      | none => exact ⟨rfl, by simp⟩
      | some due =>
        obtain ⟨time, o⟩ := due
        -- Both take the turn that is due, unless it starts or ends too late.
        have hwaited := h.waitUntil (past.now + time)
        rw [Nat.add_sub_cancel_left] at hwaited
        have hafter := hwaited.perform setup o
        have hnow := hafter.world.now_eq
        simp only [Option.map_some, hnow, Nat.add_lt_add_iff_left]
        split_ifs
        · exact ⟨rfl, by simp⟩
        · exact ⟨rfl, by simp⟩
        · exact ih hafter

end Resumes

/-! ### The loss of a connection -/

/-- How a session notices that its connection is lost, and at which occurrence. -/
inductive NoticesLoss (setup : Setup) (s : Stage) : Occurrence → Prop where
  /-- It looks at the stream, in any state: the end of the connection has arrived, or the device has
  hung up and there is nothing left to take. -/
  | looking {link : Link} {replies : Reply.Stream} : s.session.link = some link →
      link.replies.pump? s.world.now = some (false, replies) → NoticesLoss setup s .arrival
  /-- A step runs whose line the device refuses, or which waits for a reply before which the
  connection ends. -/
  | running {engine : Engine} {link : Link} {step : Step} {error : StepError} :
      s.session.state = .running → s.session.engine = some engine → s.session.link = some link →
      engine.current? (s.session.rig s.world link) = some (.ok step) →
      step.Loses setup.tools (engine.trying (s.session.rig s.world link)) error →
      NoticesLoss setup s .tick

end Stage

/-- The world in which a lost connection is told to the operator and closed. -/
def World.lost (w : World) : World := (w.showLines ["Port closed"]).record .closed

theorem World.effects_lost (w : World) :
    w.lost.trace.effects = w.trace.effects ++ [.shown "Port closed", .closed] := by
  rw [lost, effects_record, effects_showLines, List.append_assoc]
  rfl

namespace Session

/-- A reset forgets all but the outcome, and lists the ports. -/
theorem reset_eq_restarted {s : Session} {link : Link} (hstate : s.state ≠ .init)
    (hlink : s.link = some link) (setup : Setup) (w : World) :
    reset setup w s = (none, s.restarted, listPorts setup w.lost) := by
  simp only [reset, closeLink, hlink, moveTo, hstate, if_false]
  rfl

/-- A session that finds its stream closed is reset. -/
theorem attend_of_closed {s : Session} {link : Link} {replies : Reply.Stream} {w : World}
    (hstate : s.state ≠ .init) (hlink : s.link = some link)
    (hpump : link.replies.pump? w.now = some (false, replies)) (setup : Setup) :
    attend setup w s = (s.restarted, listPorts setup w.lost) := by
  have hreset : reset setup w { s with link := some { link with replies } } =
      (none, s.restarted, listPorts setup w.lost) :=
    reset_eq_restarted (s := { s with link := some { link with replies } }) hstate rfl setup w
  rw [attend, hlink]
  simp only [hpump, handle, dispatch, SessionState.react, hreset]

/-- A session whose step loses the connection is reset. -/
theorem tick_of_lost {s : Session} {setup : Setup} {w : World} {engine engine' : Engine}
    {link : Link} {r : Rig} (hstate : s.state = .running) (hengine : s.engine = some engine)
    (hlink : s.link = some link)
    (hlost : engine.runNext setup.tools (s.rig w link) = (.transportClosed, engine', r)) :
    tick setup w s = (s.restarted, listPorts setup ({ w with trace := r.trace } : World).lost) := by
  have hstarted : s.state ≠ .init := by
    rw [hstate]
    exact nofun
  have hreset := reset_eq_restarted
    (s := { s with bindings := r.bindings, engine := some engine', link := some r.link,
                   nextTick := none })
    hstarted rfl setup { w with trace := r.trace }
  have hrun := runStep_eq hengine hlink setup w (some (w.now + setup.settings.stepInterval))
  rw [hlost] at hrun
  simp only at hrun
  have hdispatch := dispatch_running hstate setup w (some (w.now + setup.settings.stepInterval))
  rw [tick, handle, hdispatch, hrun, hreset]
  rfl

end Session

namespace Stage

variable {setup : Setup} {s : Stage} {o : Occurrence}

/-- A session that notices that its connection is lost lists the ports anew, in a world in which
only the step that it ran has had effects. -/
theorem perform_of_noticesLoss (hs : s.session.Coherent) (houtcome : s.session.outcome = none)
    (hloss : s.NoticesLoss setup o) : ∃ (w : World) (new : List Effect),
      w.files = s.world.files ∧ w.trace.effects = s.world.trace.effects ++ new ∧
      s.perform setup o =
        { s with
          session := { state := .awaitTransportSelect }
          world := Session.listPorts setup w.lost } := by
  have hrestarted : s.session.restarted = { state := .awaitTransportSelect } := by
    rw [Session.restarted, houtcome]
  cases hloss with
  | looking hlink hpump =>
    refine ⟨s.world, [], rfl, (List.append_nil _).symm, ?_⟩
    rw [perform, Session.attend_of_closed hs.started.2 hlink hpump, hrestarted]
  | @running engine link step error hstate hengine hlink hcurrent hloses =>
    -- The step is the one that the engine runs, so its run ends with the loss.
    have hloss : error.isLoss = true := by cases hloses <;> rfl
    have hlost : (engine.runNext setup.tools (s.session.rig s.world link)).1 =
        .transportClosed := by
      rw [Engine.advance_runNext, Advance.ofAttempt_eq_transportClosed_iff]
      exact ⟨error, (engine.attempt?_eq_error_iff setup.tools _ hloss).2 ⟨step, hcurrent, hloses⟩,
        hloss⟩
    have hran := engine.ran_runNext setup.tools (s.session.rig s.world link)
    cases hrun : engine.runNext setup.tools (s.session.rig s.world link) with
    | mk advance rest =>
      obtain ⟨engine', r⟩ := rest
      rw [hrun] at hlost hran
      obtain rfl : advance = .transportClosed := hlost
      cases hran with
      | succeeded _ hadvance _ => rcases hadvance with hadvance | hadvance <;> cases hadvance
      | @lost new _ hcursor hleads hbindings =>
        refine ⟨{ s.world with trace := r.trace }, .tried engine.cursor :: new, rfl, ?_, ?_⟩
        · show r.trace.effects = s.world.trace.effects ++ .tried engine.cursor :: new
          rw [hleads.effects]
          simp [Engine.trying, Session.rig]
        · rw [perform, Session.tick_of_lost hstate hengine hlink hrun, hrestarted]

/-- A session that lists the ports anew is one that has just started, behind all that has happened
before. -/
theorem resumes_started (setup : Setup) (w : World) (operator : Operator) :
    Resumes w.trace
      { session := { state := .awaitTransportSelect }
        world := Session.listPorts setup w
        operator }
      (started (setup.after w.trace) w.files (operator.since w.trace.now)) where
  session := ⟨rfl, rfl, rfl, .none, rfl, rfl⟩
  world := Session.Resumes.listPorts setup (.start w)
  operator := rfl

/-- A lost connection is a fresh start. Whatever has happened before, and in whichever way the loss
is noticed, the session is afterwards what a session is that has just started. Whatever happens
then, in whatever order, it does what a session would do that starts there, with the files as they
are, the same surroundings and the same operator: it is in the same state, with the same variables
and the same place in the sequence, it has shown, written and called the same since, and it ends in
the same way; only the time is later, by the time that had passed. -/
theorem fresh_after_loss (setup : Setup) (files : FileTree) (operator : Operator)
    (happenings : List Happening)
    (hs : s = (started setup files operator).play setup happenings) (hallows : s.Allows o)
    (hloss : s.NoticesLoss setup o) :
    let lost := s.happen setup (.wake o)
    lost.session = { state := .awaitTransportSelect } ∧
      lost.session = (started setup files operator).session ∧
      ∃ past : Trace,
        (∃ new, past.effects =
          s.world.trace.effects ++ new ++ [.shown "Port closed", .closed]) ∧
        let fresh := started (setup.after past) s.world.files (s.operator.since past.now)
        (∀ later : List Happening, Resumes past (lost.play setup later)
          (fresh.play (setup.after past) (later.map (·.since past.now)))) ∧
        ∀ limit turns, (runFrom (setup.after past) limit turns fresh).1 =
          (runFrom setup (past.now + limit) turns lost).1 := by
  have hsound : s.session.Sound := hs ▸ sound_play setup files operator happenings
  have houtcome : s.session.outcome = none := outcome_of_allows hallows
  obtain ⟨w, new, hfiles, heffects, hlost⟩ :=
    perform_of_noticesLoss (hsound.coherent houtcome) houtcome hloss
  have hfresh := resumes_started setup w.lost s.operator
  have hfilesLost : w.lost.files = s.world.files := hfiles
  rw [hfilesLost] at hfresh
  simp only [happen, if_pos hallows, hlost]
  refine ⟨trivial, rfl, w.lost.trace, ⟨new, ?_⟩, hfresh.play setup, fun limit turns => ?_⟩
  · rw [w.effects_lost, heffects]
  · exact (hfresh.runFrom setup limit turns).1

/-- A session is held by a pause when its device hangs up. It is then one that has just started. -/
theorem fresh_after_hangUp :
    let s := (started Sample.setup Sample.files {}).play Sample.setup (Sample.toPause ++ [.hangUp])
    s.session.state = .awaitContinue ∧ s.Allows .arrival ∧ s.NoticesLoss Sample.setup .arrival ∧
      (s.happen Sample.setup (.wake .arrival)).session =
        (started Sample.setup Sample.files {}).session := by
  intro s
  have hallows : s.Allows .arrival := by decide
  have hloss : s.NoticesLoss Sample.setup .arrival := .looking rfl rfl
  obtain ⟨-, hstarted, -⟩ :=
    fresh_after_loss Sample.setup Sample.files {} (Sample.toPause ++ [.hangUp]) rfl hallows hloss
  exact ⟨by decide, hallows, hloss, hstarted⟩

end Stage

end BringUp
