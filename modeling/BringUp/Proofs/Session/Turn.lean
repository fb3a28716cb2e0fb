import BringUp.Proofs.Engine.Effects
import BringUp.Session.Run

/-!
# What a session does at one occurrence

All that one occurrence can do to a session, and the effects that it has, one rule for each way in
which it can go. What holds of every run is read off these rules.

* `Session.Coherent`: what holds of a session between two occurrences.
* `Session.Turn`: the rules.
* `Stage.turn_perform`: a coherent session does nothing but what the rules say.
-/

namespace BringUp

namespace World

@[simp]
theorem effects_record (effect : Effect) (w : World) :
    (w.record effect).trace.effects = w.trace.effects ++ [effect] :=
  w.trace.effects_record effect

@[simp]
theorem effects_showLines (lines : List String) (w : World) :
    (w.showLines lines).trace.effects = w.trace.effects ++ lines.map .shown :=
  w.trace.effects_showLines lines

end World

namespace Session

/-- What holds of a session between two occurrences, while it has no outcome. -/
structure Coherent (s : Session) : Prop where
  /-- It has started and has listed the ports. -/
  started : s.state ≠ .idle ∧ s.state ≠ .init
  /-- Before a port is open, nothing is left of earlier connections. -/
  selecting : s.state = .awaitTransportSelect →
    s.link = none ∧ s.engine = none ∧ s.nextTick = none ∧ s.bindings = {}
  /-- Before the sequence is started, there is a link and nothing else. -/
  opened : s.state = .awaitStart →
    s.link.isSome ∧ s.engine = none ∧ s.nextTick = none ∧ s.bindings = {}
  /-- While the sequence runs or is held, there are a link and an engine, the clock is armed, and
  the cursor is within the sequence or at its end. -/
  underway : s.state = .running ∨ s.state = .awaitContinue →
    s.link.isSome ∧ s.nextTick.isSome ∧
      ∃ engine, s.engine = some engine ∧ engine.cursor ≤ engine.size
  /-- Before the transcript is written, there is a link, and the clock is armed. -/
  complete : s.state = .complete → s.link.isSome ∧ s.nextTick.isSome
  /-- The link is quiet. -/
  quiet : ∀ link, s.link = some link → link.IsQuiet

/-- The session after its connection has ended. -/
def restarted (s : Session) : Session :=
  { state := .awaitTransportSelect, outcome := s.outcome }

/-- The effects of an ending connection, after which ports are listed. -/
def restarting (lines : List String) : List Effect :=
  .shown "Port closed" :: .closed :: .listed :: lines.map .shown

/-- What a session does at an occurrence, with the effects that this has. -/
inductive Turn (setup : Setup) : Occurrence → Session → List Effect → Session → Prop where
  /-- It stays where it is. The stream of its link may have changed, and the time of the next
  tick. -/
  | rest {o : Occurrence} {s : Session} {link : Option Link} {nextTick : Option Nat} :
    link.isSome = s.link.isSome → nextTick.isSome = s.nextTick.isSome →
      (∀ l, link = some l → l.IsQuiet) → Turn setup o s [] { s with link, nextTick }
  /-- A port does not open. -/
  | refuse {text : String} {s : Session} (port line : String) :
    s.state = .awaitTransportSelect →
      Turn setup (.line text) s [.opening port setup.settings.baud, .shown line] s
  /-- A port opens. -/
  | connect {text : String} {s : Session} {link : Link} (port line line' : String) :
    s.state = .awaitTransportSelect → link.IsQuiet →
      Turn setup (.line text) s
        [.opening port setup.settings.baud, .opened link.name, .shown line, .shown line']
        { s with state := .awaitStart, link := some link }
  /-- The sequence is loaded and starts. -/
  | load {text : String} {s : Session} {engine : Engine} (nextTick : Nat) :
    s.state = .awaitStart → engine.cursor = 0 →
      Turn setup (.line text) s
        [.read setup.settings.commandList, .read setup.settings.commandSequence]
        { s with state := .running, engine := some engine, nextTick := some nextTick }
  /-- The sequence cannot be loaded. -/
  | loadFail {text : String} {s : Session} {paths : List String} (line : String) (nextTick : Nat) :
    s.state = .awaitStart →
      paths <+: [setup.settings.commandList, setup.settings.commandSequence] →
      Turn setup (.line text) s (paths.map .read ++ [.shown line])
        { s with state := .complete, nextTick := some nextTick }
  /-- The operator goes on after a pause. -/
  | resume {text : String} {s : Session} : s.state = .awaitContinue →
      Turn setup (.line text) s [] { s with state := .running }
  /-- A step succeeds, and may ask for a pause. -/
  | step {s : Session} {engine : Engine} {link : Link} {new : List Effect} {state : SessionState}
    (bindings : Variables) (nextTick : Nat) :
    s.state = .running → s.engine = some engine → engine.cursor < engine.size →
      state = .running ∨ state = .awaitContinue → (∀ e ∈ new, e.IsOfStep) → link.IsQuiet →
      Turn setup .tick s (.tried engine.cursor :: new)
        { s with
          state
          engine := some { engine with cursor := engine.cursor + 1 }
          link := some link
          bindings
          nextTick := some nextTick }
  /-- A step fails. -/
  | fail {s : Session} {engine : Engine} {link : Link} {new : List Effect} (nextTick : Nat) :
    s.state = .running → s.engine = some engine → engine.cursor < engine.size →
      (∀ e ∈ new, e.IsOfStep) → link.IsQuiet →
      Turn setup .tick s (.tried engine.cursor :: new)
        { s with state := .complete, link := some link, nextTick := some nextTick }
  /-- The sequence is over. -/
  | exhaust {s : Session} {engine : Engine} (nextTick : Nat) :
    s.state = .running → s.engine = some engine → engine.size ≤ engine.cursor →
      Turn setup .tick s [] { s with state := .complete, nextTick := some nextTick }
  /-- A step loses the connection. -/
  | lose {s : Session} {engine : Engine} {new : List Effect} (lines : List String) :
    s.state = .running → s.engine = some engine → engine.cursor < engine.size →
      (∀ e ∈ new, e.IsOfStep) →
      Turn setup .tick s (.tried engine.cursor :: (new ++ restarting lines)) s.restarted
  /-- The connection ends between two steps. -/
  | close {s : Session} (lines : List String) :
    s.link.isSome → Turn setup .arrival s (restarting lines) s.restarted
  /-- The transcript is written, or cannot be. -/
  | finish {s : Session} (path : String) (lines : List String) (outcome : Except Failure String) :
    s.state = .complete →
      Turn setup .tick s (.saving path :: .closed :: lines.map .shown)
        { s with link := none, nextTick := none, outcome := some outcome }

/-- An occurrence that follows a rule leads to this session and world. -/
def Turns (setup : Setup) (o : Occurrence) (w : World) (s : Session) (after : Session × World) :
    Prop :=
  ∃ new, after.2.trace.effects = w.trace.effects ++ new ∧ Turn setup o s new after.1

/-! ### The parts of a session -/

/-- Listing the ports has no other effects than that. -/
theorem effects_listPorts (setup : Setup) (w : World) : ∃ lines : List String,
    (listPorts setup w).trace.effects = w.trace.effects ++ .listed :: lines.map .shown := by
  unfold listPorts
  simp only
  split
  · exact ⟨_, by rw [World.effects_showLines, World.effects_record, List.append_assoc]; rfl⟩
  · exact ⟨_, by rw [World.effects_showLines, World.effects_record, List.append_assoc]; rfl⟩

/-- A reset ends the connection and lists the ports. -/
theorem reset_eq {s : Session} (hstate : s.state ≠ .init) (hlink : s.link.isSome) (setup : Setup)
    (w : World) : ∃ lines w', reset setup w s = (none, s.restarted, w') ∧
      w'.trace.effects = w.trace.effects ++ restarting lines := by
  obtain ⟨link, hlink⟩ := Option.isSome_iff_exists.1 hlink
  obtain ⟨lines, hlines⟩ :=
    effects_listPorts setup ((w.showLines ["Port closed"]).record .closed)
  refine ⟨lines, listPorts setup ((w.showLines ["Port closed"]).record .closed), ?_, ?_⟩
  · simp only [reset, closeLink, hlink, moveTo, hstate, if_false]
    rfl
  · rw [hlines, World.effects_record, World.effects_showLines, List.append_assoc,
      List.append_assoc]
    rfl

/-- An event whose dispatch does not fail is handled by that alone. -/
theorem handle_of_dispatch {setup : Setup} {event : SessionEvent} {w : World} {s : Session}
    (h : (dispatch setup event w s).1 = none) :
    handle setup event w s = (dispatch setup event w s).2 := by
  unfold handle
  generalize dispatch setup event w s = result at h
  obtain ⟨failure, s', w'⟩ := result
  obtain rfl : failure = none := h
  rfl

/-! ### What an event asks for -/

/-- A line that picks a port opens it. -/
theorem dispatch_select {s : Session} (hstate : s.state = .awaitTransportSelect) (setup : Setup)
    (text : String) (w : World) :
    dispatch setup (.input text) w s = openPort setup (Text.trim text) w s := by
  simp [dispatch, hstate, SessionState.react]

/-- A line that starts the sequence loads it, because the clock is not armed. -/
theorem dispatch_start {s : Session} (hs : s.Coherent) (hstate : s.state = .awaitStart)
    (setup : Setup) (text : String) (w : World) :
    dispatch setup (.input text) w s = load setup w { s with state := .running } := by
  obtain ⟨-, -, htick, -⟩ := hs.opened hstate
  simp [dispatch, hstate, SessionState.react, moveTo, htick]

/-- A line that ends a pause loads nothing, because the clock is armed. -/
theorem dispatch_continue {s : Session} (hs : s.Coherent) (hstate : s.state = .awaitContinue)
    (setup : Setup) (text : String) (w : World) :
    dispatch setup (.input text) w s = (none, { s with state := .running }, w) := by
  obtain ⟨-, htick, -⟩ := hs.underway (.inr hstate)
  simp [dispatch, hstate, SessionState.react, moveTo, htick]

/-- A tick runs a step while the sequence runs. -/
theorem dispatch_running {s : Session} (hstate : s.state = .running) (setup : Setup) (w : World)
    (nextTick : Option Nat) :
    dispatch setup .tick w { s with nextTick } = runStep setup w { s with nextTick } := by
  simp [dispatch, hstate, SessionState.react]

/-! ### One rule after the other -/

/-- Opening a port opens one, or tells why not. -/
theorem turns_openPort {s : Session} (hstate : s.state = .awaitTransportSelect) (setup : Setup)
    (text port : String) (w : World) :
    (openPort setup port w s).1 = none ∧
      Turns setup (.line text) w s (openPort setup port w s).2 := by
  unfold openPort
  simp only
  split
  · rename_i failure _
    refine ⟨rfl, _, ?_, .refuse port (errorLine failure) hstate⟩
    rw [World.effects_showLines, World.effects_record, List.append_assoc]
    rfl
  · rename_i connection _
    have hquiet (now : Nat) : (connection.link now).IsQuiet := Link.IsQuiet.emit ⟨rfl, rfl⟩ now _
    have hname (now : Nat) : (connection.link now).name = connection.name := by
      rw [Connection.link, Link.emit_eq]
    rw [moveTo, if_neg (by rw [hstate]; decide)]
    refine ⟨rfl, _, ?_, .connect port ("Opened " ++ connection.name)
      "Press any key to start the sequence" hstate (hquiet _)⟩
    rw [World.effects_showLines, World.effects_record, World.effects_record, List.append_assoc,
      List.append_assoc, hname]
    rfl

/-- A failure to load one of the two files. -/
def LoadFails (setup : Setup) (w : World) (failure : Failure) : Prop :=
  w.files.loadCommandList setup.settings.commandList = .error failure ∨
    w.files.loadSequence setup.settings.commandSequence = .error failure

/-- Loading reads the two files. It fails at the first one that cannot be loaded, or gives an engine
at the start of the sequence. -/
theorem load_cases (setup : Setup) (w : World) (s : Session) :
    (∃ failure paths w', load setup w s = (some failure, s, w') ∧
        paths <+: [setup.settings.commandList, setup.settings.commandSequence] ∧
        w'.trace.effects = w.trace.effects ++ paths.map .read ∧ LoadFails setup w failure) ∨
      ∃ engine w', load setup w s =
          (none, { s with engine := some engine, nextTick := some w'.now }, w') ∧
        engine.cursor = 0 ∧
        w'.trace.effects = w.trace.effects ++
          [.read setup.settings.commandList, .read setup.settings.commandSequence] := by
  unfold load
  simp only
  split
  · rename_i failure hcommands
    refine .inl ⟨failure, [setup.settings.commandList], _, rfl, ?_, ?_, .inl hcommands⟩
    · exact ⟨[_], rfl⟩
    · rw [World.effects_record]
      rfl
  · rename_i commands _
    -- The sequence is read only if the command list could be loaded.
    split
    · rename_i failure hentries
      refine .inl ⟨failure, [setup.settings.commandList, setup.settings.commandSequence], _, rfl,
        List.prefix_rfl, ?_, .inr hentries⟩
      rw [World.effects_record, World.effects_record, List.append_assoc]
      rfl
    · refine .inr ⟨_, _, rfl, rfl, ?_⟩
      rw [World.effects_record, World.effects_record, List.append_assoc]
      rfl

/-- Completing a run that has not been started arms the clock. -/
theorem moveTo_complete_of_unarmed {s : Session} (htick : s.nextTick = none) (setup : Setup)
    (w : World) : moveTo setup .complete w { s with state := .running } =
      (none, { s with state := .complete, nextTick := some w.now }, w) := by
  simp [moveTo, htick]

/-- Starting the sequence loads it, or ends the run. -/
theorem turns_start {s : Session} (hs : s.Coherent) (hstate : s.state = .awaitStart)
    (setup : Setup) (text : String) (w : World) :
    Turns setup (.line text) w s (handle setup (.input text) w s) := by
  obtain ⟨-, -, htick, -⟩ := hs.opened hstate
  rw [handle, dispatch_start hs hstate]
  rcases load_cases setup w { s with state := .running } with
    ⟨failure, paths, w', hload, hpaths, heffects, -⟩ | ⟨engine, w', hload, hcursor, heffects⟩
  · -- The failed load has left the clock as it was, so completing the run arms it.
    rw [hload]
    simp only [moveTo_complete_of_unarmed htick]
    refine ⟨_, ?_, .loadFail (errorLine failure) w'.now hstate hpaths⟩
    rw [World.effects_showLines, heffects, List.append_assoc]
    rfl
  · rw [hload]
    exact ⟨_, heffects, .load w'.now hstate hcursor⟩

/-- A line of the operator is handled by a rule. -/
theorem turns_line {s : Session} (hs : s.Coherent) (setup : Setup) (text : String) (w : World) :
    Turns setup (.line text) w s (handle setup (.input text) w s) := by
  have hstay (hreact : s.state.react (.input text) = none) :
      Turns setup (.line text) w s (handle setup (.input text) w s) := by
    rw [handle, dispatch, hreact]
    exact ⟨[], by simp, .rest rfl rfl hs.quiet⟩
  cases hstate : s.state with
  | idle => exact absurd hstate hs.started.1
  | init => exact absurd hstate hs.started.2
  | awaitTransportSelect =>
    obtain ⟨hnone, hturns⟩ := turns_openPort hstate setup text (Text.trim text) w
    have hdispatch := dispatch_select hstate setup text w
    rw [handle_of_dispatch (by rw [hdispatch, hnone]), hdispatch]
    exact hturns
  | awaitStart => exact turns_start hs hstate setup text w
  | awaitContinue =>
    rw [handle, dispatch_continue hs hstate]
    exact ⟨[], by simp, .resume hstate⟩
  | running => exact hstay (by rw [hstate]; rfl)
  | complete => exact hstay (by rw [hstate]; rfl)

/-- The rig on which the next step of a session runs. -/
def rig (w : World) (s : Session) (link : Link) : Rig :=
  { trace := w.trace, link, bindings := s.bindings }

/-- What running a step makes of where the engine got. -/
theorem runStep_eq {s : Session} {engine : Engine} {link : Link} (hengine : s.engine = some engine)
    (hlink : s.link = some link) (setup : Setup) (w : World) (nextTick : Option Nat) :
    runStep setup w { s with nextTick } =
      match engine.runNext setup.tools (s.rig w link) with
      | (advance, engine', r) =>
        let s' : Session :=
          { s with
            engine := some engine'
            link := some r.link
            bindings := r.bindings
            nextTick := some (r.trace.now + setup.settings.stepInterval) }
        match advance with
        | .next => (none, s', { w with trace := r.trace })
        | .pause => moveTo setup .awaitContinue { w with trace := r.trace } s'
        | .exhausted | .failed _ => moveTo setup .complete { w with trace := r.trace } s'
        | .transportClosed =>
          reset setup { w with trace := r.trace } { s' with nextTick := none } := by
  unfold runStep
  simp only [hengine, hlink]
  rfl

/-- Running a step follows a rule. -/
theorem turns_runStep {s : Session} (hs : s.Coherent) (hstate : s.state = .running)
    (setup : Setup) (w : World) (nextTick : Option Nat) :
    (runStep setup w { s with nextTick }).1 = none ∧
      Turns setup .tick w s (runStep setup w { s with nextTick }).2 := by
  obtain ⟨hlink, -, engine, hengine, -⟩ := hs.underway (.inl hstate)
  obtain ⟨link, hlink⟩ := Option.isSome_iff_exists.1 hlink
  have hquiet := hs.quiet link hlink
  have hran := engine.ran_runNext setup.tools (s.rig w link)
  rw [runStep_eq hengine hlink]
  generalize engine.runNext setup.tools (s.rig w link) = result at hran
  have htried {new : List Effect} {after : Rig}
      (hleads : (engine.trying (s.rig w link)).Leads new after) :
      after.trace.effects = w.trace.effects ++ .tried engine.cursor :: new := by
    rw [hleads.effects]
    simp [Engine.trying, rig]
  -- With the parts of the session laid open, each end of the step is one of the rules as it stands.
  obtain ⟨state, bindings, _, _, tick, outcome⟩ := s
  obtain rfl : state = .running := hstate
  obtain rfl : _ = some engine := hengine
  obtain rfl : _ = some link := hlink
  cases hran with
  | exhausted hcursor =>
    exact ⟨rfl, [], by simp [rig, moveTo], .exhaust _ rfl rfl hcursor⟩
  | succeeded hcursor hadvance hleads =>
    rcases hadvance with rfl | rfl
    · exact ⟨rfl, _, htried hleads,
        .step _ _ rfl rfl hcursor (.inl rfl) hleads.ofStep (hleads.quiet hquiet)⟩
    · exact ⟨rfl, _, htried hleads,
        .step _ _ rfl rfl hcursor (.inr rfl) hleads.ofStep (hleads.quiet hquiet)⟩
  | @failed error new after hcursor hleads hbindings =>
    obtain ⟨trace, link', _⟩ := after
    obtain rfl : _ = bindings := hbindings
    exact ⟨rfl, _, htried hleads, .fail _ rfl rfl hcursor hleads.ofStep (hleads.quiet hquiet)⟩
  | @lost new after hcursor hleads hbindings =>
    simp only
    obtain ⟨lines, w', hreset, heffects⟩ := reset_eq
      (s := { state := .running, bindings := after.bindings, engine := some engine,
              link := some after.link, outcome })
      (by simp) rfl setup { w with trace := after.trace }
    rw [hreset]
    refine ⟨rfl, _, ?_, .lose lines rfl rfl hcursor hleads.ofStep⟩
    rw [heffects, htried hleads, List.append_assoc]
    rfl

/-- Writing the transcript ends the run. -/
theorem turns_flush {s : Session} (hs : s.Coherent) (hstate : s.state = .complete)
    (setup : Setup) (w : World) (nextTick : Option Nat) :
    Turns setup .tick w s (flush setup w { s with nextTick }) := by
  obtain ⟨link, hlink⟩ := Option.isSome_iff_exists.1 (hs.complete hstate).1
  unfold flush
  simp only
  generalize writeTranscript _ _ _ = written
  obtain ⟨failure, files⟩ := written
  simp only [closeLink, hlink]
  cases failure with
  | some failure =>
    refine ⟨_, ?_, .finish (setup.settings.transcriptPath setup.today) [] (.error failure) hstate⟩
    simp [Link.close]
  | none =>
    refine ⟨_, ?_, .finish (setup.settings.transcriptPath setup.today) ["Sequence Complete"]
      (.ok (setup.settings.transcriptPath setup.today)) hstate⟩
    simp [Link.close]

/-- A tick writes the transcript when nothing else is left to do. -/
theorem tick_complete {s : Session} (hstate : s.state = .complete) (setup : Setup) (w : World) :
    tick setup w s =
      flush setup w { s with nextTick := some (w.now + setup.settings.stepInterval) } := by
  simp [tick, handle, dispatch, hstate, SessionState.react]

/-- A tick in a pause arms the clock anew and does nothing else. -/
theorem tick_of_held {s : Session} (hstate : s.state = .awaitContinue) (setup : Setup)
    (w : World) :
    tick setup w s = ({ s with nextTick := some (w.now + setup.settings.stepInterval) }, w) := by
  simp [tick, handle, dispatch, hstate, SessionState.react]

/-- A tick of the clock is handled by a rule. -/
theorem turns_tick {s : Session} (hs : s.Coherent) (htick : s.nextTick.isSome) (setup : Setup)
    (w : World) : Turns setup .tick w s (tick setup w s) := by
  cases hstate : s.state with
  | idle => exact absurd hstate hs.started.1
  | init => exact absurd hstate hs.started.2
  -- Before the sequence is started, no tick is due.
  | awaitTransportSelect => simp [(hs.selecting hstate).2.2.1] at htick
  | awaitStart => simp [(hs.opened hstate).2.2.1] at htick
  | awaitContinue =>
    rw [tick_of_held hstate]
    exact ⟨[], by simp, .rest rfl htick.symm hs.quiet⟩
  | running =>
    obtain ⟨hnone, hturns⟩ :=
      turns_runStep hs hstate setup w (some (w.now + setup.settings.stepInterval))
    have hdispatch :=
      dispatch_running hstate setup w (some (w.now + setup.settings.stepInterval))
    rw [tick, handle_of_dispatch (by rw [hdispatch, hnone]), hdispatch]
    exact hturns
  | complete =>
    rw [tick_complete hstate]
    exact turns_flush hs hstate setup w _

/-- What arrives from the device is handled by a rule. -/
theorem turns_attend {s : Session} (hs : s.Coherent) (setup : Setup) (w : World) :
    Turns setup .arrival w s (attend setup w s) := by
  unfold attend
  split
  · exact ⟨[], by simp, .rest rfl rfl hs.quiet⟩
  · rename_i link hlink
    split
    · exact ⟨[], by simp, .rest rfl rfl hs.quiet⟩
    · rename_i replies hpump
      have hquiet := (hs.quiet link hlink).pump hpump
      refine ⟨[], by simp, .rest (hlink ▸ rfl) rfl ?_⟩
      rintro l ⟨⟩
      exact hquiet
    · -- The end of the connection is noticed at a link, so there is one to close.
      rename_i replies _
      have hdispatch : dispatch setup .transportClosed w
          { s with link := some { link with replies } } =
            reset setup w { s with link := some { link with replies } } := by
        rw [dispatch, SessionState.react]
      obtain ⟨lines, w', hreset, heffects⟩ :=
        reset_eq (s := { s with link := some { link with replies } }) hs.started.2 rfl setup w
      rw [handle, hdispatch, hreset]
      exact ⟨_, heffects, .close lines (hlink ▸ rfl)⟩

end Session

/-- A coherent session does nothing but what the rules say. -/
theorem Stage.turn_perform {s : Stage} {o : Occurrence} (hs : s.session.Coherent)
    (htick : o = .tick → s.session.nextTick.isSome) (setup : Setup) :
    s.session.Turns setup o s.world ((s.perform setup o).session, (s.perform setup o).world) := by
  cases o with
  | line text => exact Session.turns_line hs setup text s.world
  | operatorLeaves => exact ⟨[], by simp [perform], .rest rfl rfl hs.quiet⟩
  | tick => exact Session.turns_tick hs (htick rfl) setup s.world
  | arrival => exact Session.turns_attend hs setup s.world

end BringUp
