import BringUp.Proofs.Engine.Bisimulation
import BringUp.Proofs.Reply.Race
import BringUp.Proofs.Session.Reach
import BringUp.Proofs.Session.Resuming

/-!
# What closing a link reports

When a link is closed, the device may report an error. Nobody looks at it: a session with devices
that report something else does the same at every occurrence, so that it gets to the same state, has
the same effects and ends in the same way.

* `Setup.parting`: the same devices, but for what they report when their links are closed.
* `Engine.runNext_parting`: no step notices it.
* `Session.handle_parting`, `Session.attend_parting`: no session does.
* `Stage.play_parting`: nothing that happens does.
-/

namespace BringUp

variable (close : Trace → Except Failure Unit)

/-- The device, with something else to report when its link is closed. -/
def Device.parting (d : Device) : Device := { d with close }

/-- The link to such a device. -/
def Link.parting (l : Link) : Link := { l with device := l.device.parting close }

/-- The rig with the link to such a device. -/
def Rig.parting (r : Rig) : Rig := { r with link := r.link.parting close }

/-- The connection to such a device. -/
def Connection.parting (c : Connection) : Connection :=
  { c with device := c.device.parting close }

/-- The connector that opens the same ports, with such devices behind them. -/
def Connector.parting (c : Connector) : Connector :=
  { c with connect := fun t port baud => (c.connect t port baud).map (·.parting close) }

/-- The setup with such devices. -/
def Setup.parting (setup : Setup) : Setup :=
  { setup with connector := setup.connector.parting close }

/-- The session with a link to such a device, if it has one. -/
def Session.parting (s : Session) : Session := { s with link := s.link.map (·.parting close) }

/-- The stage with such a session. -/
def Stage.parting (s : Stage) : Stage := { s with session := s.session.parting close }

/-! ### Links and steps -/

namespace Link

/-- Such a device answers as before. -/
theorem emit_parting (now : Nat) (emissions : List Emission) (l : Link) :
    (l.parting close).emit now emissions = (l.emit now emissions).parting close := by
  rw [emit_eq, emit_eq]
  rfl

/-- What is written to such a device comes to the same. -/
theorem send_parting (line : String) (t : Trace) (l : Link) :
    (l.parting close).send line t =
      (l.send line t).map fun (t, l) => (t, l.parting close) := by
  have hrespond : (l.parting close).device.respond = l.device.respond := rfl
  rw [send, send, hrespond]
  cases l.device.respond t (octets line) with
  | error failure => rfl
  | ok emissions => simp only [emit_parting, Except.map]

/-- A request to such a device comes to the same. -/
theorem request_parting (command : String) (wait : Reply.Wait) (timeout : Nat) (t : Trace)
    (l : Link) :
    (l.parting close).request command wait timeout t =
      ((l.request command wait timeout t).1, (l.request command wait timeout t).2.1,
        (l.request command wait timeout t).2.2.parting close) := by
  cases hrespond : l.device.respond t (octets command) with
  | error failure =>
    have hrespond' : (l.parting close).device.respond t (octets command) = .error failure :=
      hrespond
    rw [request_of_refused hrespond, request_of_refused hrespond']
    rfl
  | ok emissions =>
    have hrespond' : (l.parting close).device.respond t (octets command) = .ok emissions :=
      hrespond
    have hlistening :
        (l.parting close).listening t.now emissions = l.listening t.now emissions := by
      rw [listening, listening, emit_eq, emit_eq]
      rfl
    rw [request_of_respond hrespond, request_of_respond hrespond', hlistening]
    rfl

end Link

/-- No step can tell such a device from the one before. -/
theorem Rig.parting_bisimulation (tools : Tools) :
    Bisimulation tools tools fun r r' => r' = r.parting close where
  patternTimeout := rfl
  countTimeout := rfl
  wording := rfl
  bindings := by
    rintro r _ rfl
    rfl
  withBindings bindings := by
    rintro rfl
    rfl
  record effect := by
    rintro rfl
    rfl
  pass time := by
    rintro rfl
    rfl
  call name arguments := by
    rintro rfl
    rfl
  send {r _} line := by
    rintro rfl
    have htrace : (r.parting close).trace = r.trace := rfl
    have hlink : (r.parting close).link = r.link.parting close := rfl
    simp only [Step.run, htrace, hlink, Link.send_parting]
    cases r.link.send line r.trace with
    | error failure => exact ⟨rfl, rfl⟩
    | ok written => exact ⟨rfl, rfl⟩
  request {r _} command wait timeout := by
    rintro rfl
    have hrequest := r.link.request_parting close command wait timeout r.trace
    have hclosing : (r.parting close).request command wait timeout =
        ((r.request command wait timeout).1, (r.request command wait timeout).2.parting close) := by
      simp only [Rig.request, Rig.parting, hrequest]
    rw [hclosing]
    exact ⟨rfl, rfl⟩

/-- No engine can. -/
theorem Engine.runNext_parting (tools : Tools) (e : Engine) (r : Rig) :
    e.runNext tools (r.parting close) =
      ((e.runNext tools r).1, (e.runNext tools r).2.1, (e.runNext tools r).2.2.parting close) := by
  have hparting : r.parting close = r.parting close := rfl
  obtain ⟨hadvance, hengine, hrig⟩ :=
    (Rig.parting_bisimulation close tools).runNext hparting e
  exact Prod.ext hadvance (Prod.ext hengine hrig)

/-! ### Sessions -/

namespace Session

/-- The result of an event with the session changed. -/
def partingResult (result : Option Failure × Session × World) :
    Option Failure × Session × World :=
  (result.1, result.2.1.parting close, result.2.2)

section

variable (setup : Setup) (w : World) (s : Session)

theorem load_parting :
    load (setup.parting close) w (s.parting close) = partingResult close (load setup w s) := by
  have hsettings : (setup.parting close).settings = setup.settings := rfl
  unfold load
  simp only [hsettings]
  split
  · rfl
  · split
    · rfl
    · rfl

theorem moveTo_parting (next : SessionState) :
    moveTo (setup.parting close) next w (s.parting close) =
      partingResult close (moveTo setup next w s) := by
  have hstate : (s.parting close).state = s.state := rfl
  have htick : (s.parting close).nextTick = s.nextTick := rfl
  unfold moveTo
  rw [hstate]
  by_cases hsame : s.state = next
  · rw [if_pos hsame, if_pos hsame]
    rfl
  · rw [if_neg hsame, if_neg hsame]
    cases next with
    | running =>
      simp only [htick]
      split
      · rfl
      · exact load_parting close setup w { s with state := .running }
    | init | complete | idle | awaitTransportSelect | awaitStart | awaitContinue => rfl

theorem openPort_parting (port : String) :
    openPort (setup.parting close) port w (s.parting close) =
      partingResult close (openPort setup port w s) := by
  have hconnect (t : Trace) (baud : Nat) : (setup.parting close).connector.connect t port baud =
      (setup.connector.connect t port baud).map (·.parting close) := rfl
  have hsettings : (setup.parting close).settings = setup.settings := rfl
  unfold openPort
  simp only [hconnect, hsettings]
  cases setup.connector.connect w.trace port setup.settings.baud with
  | error failure => rfl
  | ok connection =>
    have hlink (now : Nat) :
        (connection.parting close).link now = (connection.link now).parting close :=
      Link.emit_parting close now connection.greeting
        { name := connection.name, device := connection.device }
    simp only [Except.map, hlink]
    exact moveTo_parting close setup _
      { s with link := some (connection.link (World.showLines _ (World.record _ _)).now) } _

/-- However the link is closed, it is gone. -/
theorem closeLink_parting : closeLink w (s.parting close) =
    ((closeLink w s).1.parting close, (closeLink w s).2) := by
  unfold closeLink
  cases hlink : s.link with
  | none => simp [parting, hlink]
  | some link => simp [parting, hlink, Link.close]

theorem reset_parting :
    reset (setup.parting close) w (s.parting close) = partingResult close (reset setup w s) := by
  have hclosed := closeLink_parting close (w.showLines ["Port closed"]) { s with nextTick := none }
  have hunarmed : ({ s.parting close with nextTick := none } : Session) =
      Session.parting close { s with nextTick := none } := rfl
  unfold reset
  rw [hunarmed, hclosed]
  exact moveTo_parting close setup _ _ .init

theorem goOn_parting (x : Advance × Engine × Rig) :
    (s.parting close).goOn (setup.parting close) w (x.1, x.2.1, x.2.2.parting close) =
      partingResult close (s.goOn setup w x) := by
  obtain ⟨advance, engine, rig⟩ := x
  let w' : World := { w with trace := rig.trace }
  let s' : Session := { s with engine := some engine, link := some rig.link,
                               bindings := rig.bindings }
  let armed : Session := { s' with nextTick := some (w'.now + setup.settings.stepInterval) }
  cases advance with
  | next => rfl
  | pause => exact moveTo_parting close setup w' armed .awaitContinue
  | exhausted => exact moveTo_parting close setup w' armed .complete
  | failed error => exact moveTo_parting close setup w' armed .complete
  | transportClosed => exact reset_parting close setup w' s'

theorem runStep_parting :
    runStep (setup.parting close) w (s.parting close) =
      partingResult close (runStep setup w s) := by
  cases hengine : s.engine with
  | none =>
    have hengine' : (s.parting close).engine = none := hengine
    rw [runStep_of_no_engine hengine, runStep_of_no_engine hengine']
    rfl
  | some engine =>
    have hengine' : (s.parting close).engine = some engine := hengine
    cases hlink : s.link with
    | none =>
      have hlink' : (s.parting close).link = none := by rw [parting, hlink]; rfl
      rw [runStep_of_no_link hengine hlink, runStep_of_no_link hengine' hlink']
      rfl
    | some link =>
      have hlink' : (s.parting close).link = some (link.parting close) := by
        rw [parting, hlink]
        rfl
      have hrig : (s.parting close).rig w (link.parting close) = (s.rig w link).parting close := rfl
      have htools : (setup.parting close).tools = setup.tools := rfl
      rw [runStep_eq_goOn hengine hlink, runStep_eq_goOn hengine' hlink', hrig, htools,
        Engine.runNext_parting]
      exact goOn_parting close setup w { s with nextTick := none } _

theorem flush_parting : flush (setup.parting close) w (s.parting close) =
    ((flush setup w s).1.parting close, (flush setup w s).2) := by
  have htranscript : (s.parting close).transcript w.now = s.transcript w.now := by
    unfold transcript
    cases hlink : s.link with
    | none => simp [parting, hlink]
    | some link => simp [parting, hlink, Link.parting]
  have hpath : (setup.parting close).settings.transcriptPath (setup.parting close).today =
      setup.settings.transcriptPath setup.today := rfl
  have hunarmed : ({ s.parting close with nextTick := none } : Session) =
      Session.parting close { s with nextTick := none } := rfl
  unfold flush
  simp only [htranscript, hpath, hunarmed, closeLink_parting]
  split
  · rfl
  · rfl

theorem dispatch_parting (event : SessionEvent) :
    dispatch (setup.parting close) event w (s.parting close) =
      partingResult close (dispatch setup event w s) := by
  have hstate : (s.parting close).state = s.state := rfl
  unfold dispatch
  rw [hstate]
  cases s.state.react event with
  | none => rfl
  | some action =>
    cases action with
    | reset => exact reset_parting close setup w s
    | openPort port => exact openPort_parting close setup w s port
    | goTo state => exact moveTo_parting close setup w s state
    | runStep => exact runStep_parting close setup w s
    | flush => simp only [flush_parting]; rfl

theorem handle_parting (event : SessionEvent) :
    handle (setup.parting close) event w (s.parting close) =
      ((handle setup event w s).1.parting close, (handle setup event w s).2) := by
  unfold handle
  rw [dispatch_parting]
  generalize dispatch setup event w s = result
  obtain ⟨failure, s', w'⟩ := result
  cases failure with
  | none => rfl
  | some failure =>
    have hcomplete := moveTo_parting close setup (w'.showLines [errorLine failure]) s' .complete
    exact congrArg Prod.snd hcomplete

theorem attend_parting : attend (setup.parting close) w (s.parting close) =
    ((attend setup w s).1.parting close, (attend setup w s).2) := by
  unfold attend
  cases hlink : s.link with
  | none => simp [parting, hlink]
  | some link =>
    have hlink' : (s.parting close).link = some (link.parting close) := by
      rw [parting, hlink]
      rfl
    have hreplies : (link.parting close).replies = link.replies := rfl
    rw [hlink']
    simp only [hreplies]
    cases link.replies.pump? w.now with
    | none => rfl
    | some pumped =>
      obtain ⟨isOpen, replies⟩ := pumped
      cases isOpen with
      | true => rfl
      | false =>
        exact handle_parting close setup w { s with link := some { link with replies } }
          .transportClosed

end

end Session

/-! ### Runs -/

namespace Stage

variable (setup : Setup) (s : Stage)

theorem perform_parting (o : Occurrence) :
    (s.parting close).perform (setup.parting close) o = (s.perform setup o).parting close := by
  have hsession : (s.parting close).session = s.session.parting close := rfl
  have hworld : (s.parting close).world = s.world := rfl
  cases o with
  | line text =>
    simp only [perform, hsession, hworld, Session.handle_parting]
    rfl
  | operatorLeaves => rfl
  | tick =>
    have htick : (s.session.parting close).tick (setup.parting close) s.world =
        ((s.session.tick setup s.world).1.parting close, (s.session.tick setup s.world).2) :=
      Session.handle_parting close setup s.world
        { s.session with nextTick := some (s.world.now + setup.settings.stepInterval) } .tick
    simp only [perform, hsession, hworld, htick]
    rfl
  | arrival =>
    simp only [perform, hsession, hworld, Session.attend_parting]
    rfl

theorem happen_parting (h : Happening) :
    (s.parting close).happen (setup.parting close) h = (s.happen setup h).parting close := by
  have hinbox (change : Reply.Inbox → Reply.Inbox) :
      (s.parting close).withInbox change = (s.withInbox change).parting close := by
    simp only [withInbox, parting, Session.parting, Option.map_map]
    rfl
  cases h with
  | wait time => rfl
  | send delay a => exact hinbox _
  | hangUp => exact hinbox _
  | change files => rfl
  | wake o =>
    have hallows : (s.parting close).Allows o ↔ s.Allows o := Iff.rfl
    by_cases h : s.Allows o
    · rw [happen, happen, if_pos h, if_pos (hallows.2 h), perform_parting]
    · rw [happen, happen, if_neg h, if_neg fun h' => h (hallows.1 h')]

/-- Whatever happens, in whatever order, what closing a link reports makes no difference. -/
theorem play_parting (happenings : List Happening) :
    (s.parting close).play (setup.parting close) happenings =
      (s.play setup happenings).parting close := by
  induction happenings generalizing s with
  | nil => rfl
  | cons h happenings ih => rw [play_cons, play_cons, happen_parting, ih]

end Stage

end BringUp
