import BringUp.Proofs.Engine.Resuming
import BringUp.Proofs.Session.Turn

/-!
# Sessions that start later

A session in the middle of a run does what it would do at the start of a run whose surroundings are
those from that moment on, later by as much.

* `Setup.after`: what a session is given, seen from the end of a trace on.
* `Session.Resumes`, `World.Resumes`: a session and its world in the middle of a run, and at the
  start of a run.
* `Session.Resumes.handle`, `Session.Resumes.tick`, `Session.Resumes.attend`: what the sessions do.
-/

namespace BringUp

/-- A connection, seen from the end of a trace on. -/
def Connection.after (past : Trace) (c : Connection) : Connection :=
  { c with device := c.device.after past }

/-- A connector, seen from the end of a trace on. -/
def Connector.after (past : Trace) (c : Connector) : Connector where
  discover t := c.discover (past ++ t)
  connect t port baud := (c.connect (past ++ t) port baud).map (·.after past)

/-- What a session is given, seen from the end of a trace on. -/
def Setup.after (past : Trace) (setup : Setup) : Setup :=
  { setup with
    functions := setup.functions.after past
    connector := setup.connector.after past }

/-- A world `w` in the middle of a run, at whose start `past` has happened, and a world `w'` at the
start of a run whose surroundings are those from there on. -/
structure World.Resumes (past : Trace) (w w' : World) : Prop where
  /-- The same has happened since. -/
  trace : w.trace = past ++ w'.trace
  /-- The files are the same. -/
  files : w'.files = w.files

namespace World.Resumes

variable {past : Trace} {w w' : World}

/-- One world is later than the other by the time of the past. -/
theorem now_eq (h : w.Resumes past w') : w.now = past.now + w'.now := congrArg Trace.now h.trace

/-- Something is done in both. -/
theorem record (h : w.Resumes past w') (effect : Effect) :
    (w.record effect).Resumes past (w'.record effect) where
  trace := by
    show w.trace.record effect = past ++ w'.trace.record effect
    rw [Trace.append_record, h.trace]
  files := h.files

/-- Lines are shown in both. -/
theorem showLines (h : w.Resumes past w') (lines : List String) :
    (w.showLines lines).Resumes past (w'.showLines lines) where
  trace := by
    show w.trace.showLines lines = past ++ w'.trace.showLines lines
    rw [Trace.append_showLines, h.trace]
  files := h.files

/-- The files change in both. -/
theorem withFiles (h : w.Resumes past w') (files : FileTree) :
    ({ w with files } : World).Resumes past { w' with files } :=
  ⟨h.trace, rfl⟩

/-- The world where a past ends is the start of a run. -/
theorem start (w : World) : w.Resumes w.trace { files := w.files } where
  trace := w.trace.append_empty.symm
  files := rfl

end World.Resumes

namespace Session

/-- A session `s` in the middle of a run, at whose start `past` has happened, and a session `s'` at
the start of a run whose surroundings are those from there on. -/
structure Resumes (past : Trace) (s s' : Session) : Prop where
  /-- They are in the same state. -/
  state : s'.state = s.state
  /-- The variables are the same. -/
  bindings : s'.bindings = s.bindings
  /-- The sequences are at the same place. -/
  engine : s'.engine = s.engine
  /-- Both have a link that is the same, or none. -/
  link : Option.Rel (Link.Resumes past) s.link s'.link
  /-- The clock ticks later. -/
  nextTick : s.nextTick = s'.nextTick.map (past.now + ·)
  /-- They have ended in the same way, or not. -/
  outcome : s'.outcome = s.outcome

/-- How a session goes on from where its engine got. -/
def goOn (setup : Setup) (w : World) (s : Session) :
    Advance × Engine × Rig → Option Failure × Session × World
  | (advance, engine, rig) =>
    let w := { w with trace := rig.trace }
    let s := { s with engine := some engine, link := some rig.link, bindings := rig.bindings }
    let armed := { s with nextTick := some (w.now + setup.settings.stepInterval) }
    match advance with
    | .next => (none, armed, w)
    | .pause => Session.moveTo setup .awaitContinue w armed
    | .exhausted | .failed _ => Session.moveTo setup .complete w armed
    | .transportClosed => Session.reset setup w s

section RunStep

variable {setup : Setup} {w : World} {s : Session} {engine : Engine}

/-- Without a sequence there is no step. -/
theorem runStep_of_no_engine (hengine : s.engine = none) :
    runStep setup w s =
      (some { message := "No sequence loaded" }, { s with nextTick := none }, w) := by
  simp only [runStep, hengine]

/-- Without a link there is no step. -/
theorem runStep_of_no_link (hengine : s.engine = some engine) (hlink : s.link = none) :
    runStep setup w s =
      (some { message := "Sequence is running without a transport" },
        { s with nextTick := none }, w) := by
  simp only [runStep, hengine, hlink]

/-- A step is run by the engine, and the session goes on from there. -/
theorem runStep_eq_goOn {link : Link} (hengine : s.engine = some engine)
    (hlink : s.link = some link) :
    runStep setup w s =
      ({ s with nextTick := none } : Session).goOn setup w
        (engine.runNext setup.tools (s.rig w link)) := by
  simp only [runStep, hengine, hlink]
  rfl

end RunStep

/-- What is the same about two results: the failures, and that the sessions and worlds are those in
the middle and at the start of a run. -/
structure SameResult (past : Trace) (x x' : Option Failure × Session × World) : Prop where
  /-- They fail in the same way, or not. -/
  failure : x'.1 = x.1
  /-- The sessions. -/
  session : x.2.1.Resumes past x'.2.1
  /-- The worlds. -/
  world : x.2.2.Resumes past x'.2.2

namespace Resumes

variable {past : Trace} {w w' : World} {s s' : Session}

/-- Both go to a state. -/
theorem withState (hs : s.Resumes past s') (state : SessionState) :
    ({ s with state } : Session).Resumes past { s' with state } :=
  ⟨rfl, hs.bindings, hs.engine, hs.link, hs.nextTick, hs.outcome⟩

/-- The clock is armed for another time in both. -/
theorem withTick (hs : s.Resumes past s') {nextTick nextTick' : Option Nat}
    (h : nextTick = nextTick'.map (past.now + ·)) :
    ({ s with nextTick } : Session).Resumes past { s' with nextTick := nextTick' } :=
  ⟨hs.state, hs.bindings, hs.engine, hs.link, h, hs.outcome⟩

/-- The link changes in both. -/
theorem withLink (hs : s.Resumes past s') {link link' : Option Link}
    (h : Option.Rel (Link.Resumes past) link link') :
    ({ s with link } : Session).Resumes past { s' with link := link' } :=
  ⟨hs.state, hs.bindings, hs.engine, h, hs.nextTick, hs.outcome⟩

/-- The clock is not armed any more in either. -/
theorem unarmed (hs : s.Resumes past s') :
    ({ s with nextTick := none } : Session).Resumes past { s' with nextTick := none } :=
  hs.withTick rfl

/-- The clock ticks a while from now in both. -/
theorem tickAfter (hw : w.Resumes past w') (interval : Nat) :
    some (w.now + interval) = (some (w'.now + interval)).map (past.now + ·) := by
  rw [hw.now_eq, Option.map_some, Nat.add_assoc]

/-- The clock ticks now in both. -/
theorem tickNow (hw : w.Resumes past w') : some w.now = (some w'.now).map (past.now + ·) := by
  rw [hw.now_eq, Option.map_some]

/-! ### The parts of a session -/

variable (setup : Setup)

theorem listPorts (hw : w.Resumes past w') :
    (listPorts setup w).Resumes past (listPorts (setup.after past) w') := by
  have hdiscover : (setup.after past).connector.discover w'.trace =
      setup.connector.discover w.trace := by
    rw [hw.trace]
    rfl
  unfold Session.listPorts
  simp only [hdiscover]
  cases setup.connector.discover w.trace with
  | ok ports => exact (hw.record .listed).showLines _
  | error failure => exact (hw.record .listed).showLines _

theorem load (hs : s.Resumes past s') (hw : w.Resumes past w') :
    SameResult past (load setup w s) (load (setup.after past) w' s') := by
  have hcommands := hw.record (.read setup.settings.commandList)
  have hentries := hcommands.record (.read setup.settings.commandSequence)
  have hfiles (w : World) (effect : Effect) : (w.record effect).files = w.files := rfl
  have hsettings : (setup.after past).settings = setup.settings := rfl
  unfold Session.load
  simp only [hsettings, hfiles, hw.files]
  cases w.files.loadCommandList setup.settings.commandList with
  | error failure => exact ⟨rfl, hs, hcommands⟩
  | ok commands =>
    simp only
    cases w.files.loadSequence setup.settings.commandSequence with
    | error failure => exact ⟨rfl, hs, hentries⟩
    | ok entries =>
      exact ⟨rfl, ⟨hs.state, hs.bindings, rfl, hs.link, tickNow hentries, hs.outcome⟩, hentries⟩

theorem moveTo (hs : s.Resumes past s') (hw : w.Resumes past w') (next : SessionState) :
    SameResult past (moveTo setup next w s) (moveTo (setup.after past) next w' s') := by
  unfold Session.moveTo
  rw [hs.state]
  have hsome : s'.nextTick.isSome = s.nextTick.isSome := by rw [hs.nextTick, Option.isSome_map]
  by_cases hsame : s.state = next
  · rw [if_pos hsame, if_pos hsame]
    exact ⟨rfl, hs, hw⟩
  · rw [if_neg hsame, if_neg hsame]
    cases next with
    | init => exact ⟨rfl, ⟨rfl, rfl, rfl, hs.link, rfl, hs.outcome⟩, listPorts setup hw⟩
    | running =>
      simp only [hsome]
      -- A clock that is armed tells that the sequence is loaded.
      cases s.nextTick.isSome with
      | true => exact ⟨rfl, hs.withState .running, hw⟩
      | false => exact (hs.withState .running).load setup hw
    | complete =>
      -- A clock that is armed stays so, and one that is not is armed for now.
      refine ⟨rfl, (hs.withState .complete).withTick ?_, hw⟩
      rw [hs.nextTick]
      cases s'.nextTick with
      | none => exact tickNow hw
      | some time => rfl
    | idle | awaitTransportSelect | awaitStart | awaitContinue =>
      exact ⟨rfl, hs.withState _, hw⟩

theorem openPort (hs : s.Resumes past s') (hw : w.Resumes past w') (port : String) :
    SameResult past (openPort setup port w s) (openPort (setup.after past) port w' s') := by
  have hasked := hw.record (.opening port setup.settings.baud)
  have hconnect : (setup.after past).connector.connect w'.trace port setup.settings.baud =
      (setup.connector.connect w.trace port setup.settings.baud).map (·.after past) := by
    rw [hw.trace]
    rfl
  have hsettings : (setup.after past).settings = setup.settings := rfl
  unfold Session.openPort
  simp only [hsettings, hconnect]
  cases setup.connector.connect w.trace port setup.settings.baud with
  | error failure => exact ⟨rfl, hs, hasked.showLines _⟩
  | ok connection =>
    have hopened := (hasked.record (.opened connection.name)).showLines
      ["Opened " ++ connection.name, "Press any key to start the sequence"]
    -- Both links are new, and the device has nothing to send but its greeting.
    have hnew : ({ name := connection.name, device := connection.device } : Link).Resumes past
        { name := connection.name, device := connection.device.after past } := ⟨rfl, rfl, rfl⟩
    have hlink := hnew.emit (World.showLines
      ["Opened " ++ connection.name, "Press any key to start the sequence"]
      ((w'.record (.opening port setup.settings.baud)).record (.opened connection.name))).now
      connection.greeting
    rw [← hopened.now_eq] at hlink
    exact (hs.withLink (.some hlink)).moveTo setup hopened .awaitStart

/-- Both sessions have a link, or neither has one. -/
theorem link_cases (hs : s.Resumes past s') :
    s.link = none ∧ s'.link = none ∨
      ∃ l l', s.link = some l ∧ s'.link = some l' ∧ l.Resumes past l' := by
  have hlink := hs.link
  generalize s.link = link, s'.link = link' at hlink
  cases hlink with
  | none => exact .inl ⟨rfl, rfl⟩
  | some h => exact .inr ⟨_, _, rfl, rfl, h⟩

theorem closeLink (hs : s.Resumes past s') (hw : w.Resumes past w') :
    (closeLink w s).1.Resumes past (closeLink w' s').1 ∧
      (closeLink w s).2.Resumes past (closeLink w' s').2 := by
  unfold Session.closeLink
  rcases hs.link_cases with ⟨hnone, hnone'⟩ | ⟨l, l', hsome, hsome', -⟩
  · simp only [hnone, hnone']
    exact ⟨hs, hw⟩
  · simp only [hsome, hsome']
    exact ⟨hs.withLink .none, hw.record .closed⟩

theorem reset (hs : s.Resumes past s') (hw : w.Resumes past w') :
    SameResult past (reset setup w s) (reset (setup.after past) w' s') := by
  obtain ⟨hclosed, hworld⟩ :=
    hs.unarmed.closeLink (hw.showLines ["Port closed"])
  exact hclosed.moveTo setup hworld .init

/-- The sessions go on alike from where their engines got. -/
theorem goOn (hs : s.Resumes past s') (hw : w.Resumes past w') {x x' : Advance × Engine × Rig}
    (hx : Rig.Bisimulation.SameAdvance (Rig.Resumes past) x x') :
    SameResult past (s.goOn setup w x) (s'.goOn (setup.after past) w' x') := by
  obtain ⟨advance, engine, rig⟩ := x
  obtain ⟨advance', engine', rig'⟩ := x'
  obtain ⟨hadvance, hengine, hrig⟩ := hx
  obtain rfl : advance' = advance := hadvance
  obtain rfl : engine' = engine := hengine
  have hworld : ({ w with trace := rig.trace } : World).Resumes past
      { w' with trace := rig'.trace } := ⟨hrig.trace, hw.files⟩
  have hsession (nextTick nextTick' : Option Nat)
      (htick : nextTick = nextTick'.map (past.now + ·)) :
      ({ s with engine := some engine', link := some rig.link, bindings := rig.bindings,
                nextTick } : Session).Resumes past
        { s' with engine := some engine', link := some rig'.link, bindings := rig'.bindings,
                  nextTick := nextTick' } :=
    ⟨hs.state, hrig.bindings, rfl, .some hrig.link, htick, hs.outcome⟩
  have harmed := hsession _ _ (tickAfter hworld setup.settings.stepInterval)
  cases advance' with
  | next => exact ⟨rfl, harmed, hworld⟩
  | pause => exact harmed.moveTo setup hworld .awaitContinue
  | exhausted => exact harmed.moveTo setup hworld .complete
  | failed error => exact harmed.moveTo setup hworld .complete
  | transportClosed => exact (hsession none none rfl).reset setup hworld

theorem runStep (hs : s.Resumes past s') (hw : w.Resumes past w') :
    SameResult past (runStep setup w s) (runStep (setup.after past) w' s') := by
  cases hengine : s.engine with
  | none =>
    have hengine' : s'.engine = none := hs.engine.trans hengine
    rw [runStep_of_no_engine hengine, runStep_of_no_engine hengine']
    exact ⟨rfl, hs.unarmed, hw⟩
  | some engine =>
    have hengine' : s'.engine = some engine := hs.engine.trans hengine
    rcases hs.link_cases with ⟨hnone, hnone'⟩ | ⟨l, l', hlink, hlink', hresumes⟩
    · rw [runStep_of_no_link hengine hnone, runStep_of_no_link hengine' hnone']
      exact ⟨rfl, hs.unarmed, hw⟩
    · rw [runStep_eq_goOn hengine hlink, runStep_eq_goOn hengine' hlink']
      have hrig : (s.rig w l).Resumes past (s'.rig w' l') := ⟨hw.trace, hs.bindings, hresumes⟩
      have hsame := (Rig.resumes_bisimulation past setup.tools).runNext hrig engine
      exact hs.unarmed.goOn setup hw hsame

/-- The same has been taken of the replies. -/
theorem transcript_eq (hs : s.Resumes past s') (hw : w.Resumes past w') :
    s'.transcript w'.now = s.transcript w.now := by
  unfold transcript
  rcases hs.link_cases with ⟨hnone, hnone'⟩ | ⟨l, l', hlink, hlink', hresumes⟩
  · rw [hnone, hnone']
  · simp only [hlink, hlink', hresumes.replies, hw.now_eq, Reply.Stream.drain_later]
    rfl

theorem flush (hs : s.Resumes past s') (hw : w.Resumes past w') :
    (flush setup w s).1.Resumes past (flush (setup.after past) w' s').1 ∧
      (flush setup w s).2.Resumes past (flush (setup.after past) w' s').2 := by
  have hsettings : (setup.after past).settings = setup.settings := rfl
  have htoday : (setup.after past).today = setup.today := rfl
  unfold Session.flush
  simp only [hsettings, htoday, hs.transcript_eq hw, hw.files]
  generalize writeTranscript _ _ _ = written
  obtain ⟨failure, files⟩ := written
  obtain ⟨hclosed, hworld⟩ := hs.unarmed.closeLink
    ((hw.record (.saving (setup.settings.transcriptPath setup.today))).withFiles files)
  -- The outcome is set when the link is closed, so the sessions differ in nothing else by then.
  have houtcome (outcome : Option (Except Failure String)) :=
    (⟨hclosed.state, hclosed.bindings, hclosed.engine, hclosed.link, hclosed.nextTick, rfl⟩ :
      Resumes past { (Session.closeLink _ _).1 with outcome }
        { (Session.closeLink _ _).1 with outcome })
  cases failure with
  | some failure => exact ⟨houtcome _, hworld⟩
  | none => exact ⟨houtcome _, hworld.showLines _⟩

/-! ### What the sessions do with an event -/

theorem dispatch (hs : s.Resumes past s') (hw : w.Resumes past w') (event : SessionEvent) :
    SameResult past (dispatch setup event w s) (dispatch (setup.after past) event w' s') := by
  unfold Session.dispatch
  rw [hs.state]
  cases s.state.react event with
  | none => exact ⟨rfl, hs, hw⟩
  | some reaction =>
    cases reaction with
    | reset => exact hs.reset setup hw
    | openPort port => exact hs.openPort setup hw port
    | goTo state => exact hs.moveTo setup hw state
    | runStep => exact hs.runStep setup hw
    | flush =>
      obtain ⟨hflushed, hworld⟩ := hs.flush setup hw
      exact ⟨rfl, hflushed, hworld⟩

theorem handle (hs : s.Resumes past s') (hw : w.Resumes past w') (event : SessionEvent) :
    (handle setup event w s).1.Resumes past (handle (setup.after past) event w' s').1 ∧
      (handle setup event w s).2.Resumes past (handle (setup.after past) event w' s').2 := by
  have hresult := hs.dispatch setup hw event
  unfold Session.handle
  generalize Session.dispatch setup event w s = x at hresult
  generalize Session.dispatch (setup.after past) event w' s' = x' at hresult
  obtain ⟨failure, session, world⟩ := x
  obtain ⟨failure', session', world'⟩ := x'
  obtain ⟨hfailure, hsession, hworld⟩ := hresult
  obtain rfl : failure' = failure := hfailure
  cases failure' with
  | none => exact ⟨hsession, hworld⟩
  | some failure =>
    obtain ⟨-, hmoved, htold⟩ :=
      hsession.moveTo setup (hworld.showLines [errorLine failure]) .complete
    exact ⟨hmoved, htold⟩

theorem tick (hs : s.Resumes past s') (hw : w.Resumes past w') :
    (tick setup w s).1.Resumes past (tick (setup.after past) w' s').1 ∧
      (tick setup w s).2.Resumes past (tick (setup.after past) w' s').2 :=
  (hs.withTick (tickAfter hw setup.settings.stepInterval)).handle setup hw .tick

theorem attend (hs : s.Resumes past s') (hw : w.Resumes past w') :
    (attend setup w s).1.Resumes past (attend (setup.after past) w' s').1 ∧
      (attend setup w s).2.Resumes past (attend (setup.after past) w' s').2 := by
  unfold Session.attend
  rcases hs.link_cases with ⟨hnone, hnone'⟩ | ⟨l, l', hlink, hlink', hresumes⟩
  · rw [hnone, hnone']
    exact ⟨hs, hw⟩
  · have hpump : l.replies.pump? w.now =
        (l'.replies.pump? w'.now).map fun found => (found.1, found.2.later past.now) := by
      rw [hresumes.replies, hw.now_eq, Reply.Stream.pump?_later]
    simp only [hlink, hlink', hpump]
    cases l'.replies.pump? w'.now with
    | none => exact ⟨hs, hw⟩
    | some found =>
      obtain ⟨isOpen, replies⟩ := found
      have hreplies : ({ l with replies := replies.later past.now } : Link).Resumes past
          { l' with replies } := hresumes.withReplies rfl
      have hlooked := hs.withLink (.some hreplies)
      cases isOpen with
      | true => exact ⟨hlooked, hw⟩
      | false => exact hlooked.handle setup hw .transportClosed

end Resumes

end Session

end BringUp
