import BringUp.Proofs.Engine.Capture
import BringUp.Proofs.Session.Links
import BringUp.Proofs.Session.Restart

/-!
# Where the values of variables come from

Every variable of a session was set by a step with a pattern that succeeded in the connection that
is still held. Its value is a part of what a function returned in this connection, or of a line that
has become whole since the step armed its wait, and this line is in the transcript of the link.
While a connection lasts, no variable is removed.

* `Stage.Captured`: a variable was set at a tick, as it is seen later.
* `Stage.affects_happen`: what something that happens does to the variables and the link.
* `Stage.captured_play`: every variable of a session that goes on was captured.
* `Stage.variables_provenance`: all of this for every run.
-/

namespace BringUp

namespace Engine

variable {tools : Tools} {e : Engine} {r : Rig} {step : Step}

/-- What a step calls is called. -/
theorem mem_newEffects_of_call (hstep : e.step? r = some step)
    {call : String × List String × Option String} (hcall : call ∈ step.calls tools (e.trying r)) :
    .ofCall call ∈ e.newEffects tools r := by
  rw [newEffects_eq (e.effects_runNext tools r), hstep]
  have hdoing : Effect.ofCall call ∈ step.doings tools (e.trying r) := by
    simp only [Step.doings, List.mem_append]
    exact .inl (.inr (List.mem_map_of_mem hcall))
  exact List.mem_append_left _ (List.mem_append_right _ hdoing)

/-- Running an entry closes no link. -/
theorem closed_notMem_newEffects : .closed ∉ e.newEffects tools r := by
  rw [newEffects_eq (e.effects_runNext tools r)]
  cases e.step? r with
  | none => simp
  | some step => simp [Step.doings, Effect.ofCall]

end Engine

namespace Session

variable {setup : Setup} {s s' : Session} {w : World} {new : List Effect}

/-- Loading the sequence leaves the link alone. -/
theorem link_load (setup : Setup) (w : World) (s : Session) :
    (load setup w s).2.1.link = s.link := by
  unfold load
  simp only
  split
  · rfl
  · split
    · rfl
    · rfl

/-- Going to a state leaves the link alone. -/
theorem link_moveTo (setup : Setup) (next : SessionState) (w : World) (s : Session) :
    (moveTo setup next w s).2.1.link = s.link := by
  unfold moveTo
  split
  · rfl
  · cases next with
    | running =>
      simp only
      split
      · rfl
      · exact link_load setup w { s with state := .running }
    | init | complete | idle | awaitTransportSelect | awaitStart | awaitContinue => rfl

/-- A line of the operator leaves the link alone, unless it opens one. -/
theorem link_handle_input (hstate : s.state ≠ .awaitTransportSelect) (setup : Setup)
    (text : String) (w : World) : (handle setup (.input text) w s).1.link = s.link := by
  have hdispatch : (dispatch setup (.input text) w s).2.1.link = s.link := by
    unfold dispatch
    cases hs : s.state with
    | awaitTransportSelect => exact absurd hs hstate
    | awaitStart | awaitContinue => exact link_moveTo setup .running w s
    | idle | init | running | complete => rfl
  rw [← hdispatch]
  unfold handle
  generalize dispatch setup (.input text) w s = result
  obtain ⟨failure, s', w'⟩ := result
  cases failure with
  | none => rfl
  | some failure => exact link_moveTo setup .complete _ s'

/-- A line of the operator ends no connection and changes no variable. -/
theorem Turn.line {text : String} (h : Turn setup (.line text) s new s') :
    .closed ∉ new ∧ s'.bindings = s.bindings := by
  cases h <;> simp

/-- A tick runs a step, and unless that loses the connection, the session has what the step leaves:
the variables, the link and the trace. -/
theorem tick_of_runNext {engine : Engine} {link : Link} (hstate : s.state = .running)
    (hengine : s.engine = some engine) (hlink : s.link = some link)
    (hkeeps : (engine.runNext setup.tools (s.rig w link)).1 ≠ .transportClosed) :
    (tick setup w s).1.bindings = (engine.runNext setup.tools (s.rig w link)).2.2.bindings ∧
      (tick setup w s).1.link = some (engine.runNext setup.tools (s.rig w link)).2.2.link ∧
      (tick setup w s).2.trace = (engine.runNext setup.tools (s.rig w link)).2.2.trace := by
  rw [tick_of_kept hstate hengine hlink hkeeps]
  exact ⟨rfl, rfl, rfl⟩

/-- A connection that is lost is closed before the ports are listed. -/
theorem effects_listPorts_lost (setup : Setup) (w : World) : ∃ lines,
    (listPorts setup w.lost).trace.effects = w.trace.effects ++ restarting lines := by
  obtain ⟨lines, hlines⟩ := effects_listPorts setup w.lost
  refine ⟨lines, ?_⟩
  rw [hlines, w.effects_lost, List.append_assoc]
  rfl

/-- An ending connection is closed. -/
theorem closed_mem_restarting (lines : List String) : .closed ∈ restarting lines := by
  simp [restarting]

/-- A tick that runs a step has the effects of the step. If this loses the connection, its end comes
behind them, else nothing. -/
theorem effects_tick {engine : Engine} {link : Link} (hstate : s.state = .running)
    (hengine : s.engine = some engine) (hlink : s.link = some link) (setup : Setup) (w : World) :
    ∃ more, (tick setup w s).2.trace.effects =
        w.trace.effects ++ (engine.newEffects setup.tools (s.rig w link) ++ more) ∧
      ((engine.runNext setup.tools (s.rig w link)).1 = .transportClosed ∧
          (∃ lines, more = restarting lines) ∧ (tick setup w s).1 = s.restarted ∨
        (engine.runNext setup.tools (s.rig w link)).1 ≠ .transportClosed ∧ more = []) := by
  have heffects := (engine.accounts setup.tools (s.rig w link)).effects
  by_cases hlost : (engine.runNext setup.tools (s.rig w link)).1 = .transportClosed
  · rcases hrun : engine.runNext setup.tools (s.rig w link) with ⟨advance, engine', r⟩
    rw [hrun] at hlost heffects
    obtain rfl : advance = .transportClosed := hlost
    have hran : r.trace.effects =
        w.trace.effects ++ engine.newEffects setup.tools (s.rig w link) := heffects
    obtain ⟨lines, hlines⟩ := effects_listPorts_lost setup { w with trace := r.trace }
    have htick := tick_of_lost hstate hengine hlink hrun
    refine ⟨restarting lines, ?_, .inl ⟨rfl, ⟨lines, rfl⟩, by rw [htick]⟩⟩
    rw [htick, hlines, hran, List.append_assoc]
  · refine ⟨[], ?_, .inr ⟨hlost, rfl⟩⟩
    rw [(tick_of_runNext hstate hengine hlink hlost).2.2, List.append_nil]
    exact heffects

/-- The tick that writes the transcript closes the link, and ends the run with the variables as they
are. -/
theorem tick_closes {link : Link} (hstate : s.state = .complete) (hlink : s.link = some link)
    (setup : Setup) (w : World) : ∃ new,
      (tick setup w s).2.trace.effects = w.trace.effects ++ new ∧ .closed ∈ new ∧
        (tick setup w s).1.outcome.isSome ∧ (tick setup w s).1.bindings = s.bindings := by
  rw [tick_complete hstate]
  rcases hwritten : writeTranscript (setup.settings.transcriptPath setup.today)
    (link.replies.drain w.now).transcript w.files with ⟨failure, files⟩
  cases failure with
  | none =>
    rw [flush_of_written hlink hwritten]
    exact ⟨[.saving (setup.settings.transcriptPath setup.today), .closed,
      .shown "Sequence Complete"], by simp, by simp, rfl, rfl⟩
  | some failure =>
    rw [flush_of_failure hlink hwritten]
    exact ⟨[.saving (setup.settings.transcriptPath setup.today), .closed], by simp, by simp, rfl,
      rfl⟩

end Session

namespace Stage

open Reply Session

variable {setup : Setup} {s₀ s s' : Stage} {new : List Effect} {name value : String}

/-- The step that a tick runs has a pattern, reads a text and succeeds. -/
structure Succeeds (setup : Setup) (s : Stage) (engine : Engine) (link : Link) (step : Step)
    (p : Pattern) (text : String) : Prop where
  /-- The session has an engine. -/
  engine_eq : s.session.engine = some engine
  /-- It holds a link. -/
  link_eq : s.session.link = some link
  /-- The entry at the cursor of the engine is the step. -/
  step_eq : engine.step? (s.session.rig s.world link) = some step
  /-- The step succeeds. -/
  advance_eq : s.session.advance? setup s.world = some .next
  /-- It has the pattern. -/
  pattern_eq : step.pattern? = some p
  /-- It reads the text. -/
  reads : step.Reads setup.tools (engine.trying (s.session.rig s.world link)) text

/-- Where a text is that a step has read, as it is seen later: the step was run on a link at `s₀`,
and `since` is what has been done up to `s`. -/
inductive Origin (s₀ s : Stage) (link : Link) (since : List Effect) : Step → String → Prop where
  /-- It is the result of a call that was made. -/
  | result {x : Execution} {text : String} : .called x.function x.arguments (some text) ∈ since →
      Origin s₀ s link since (.execute x) text
  /-- It is a line of the transcript of the link that is held, and has become whole since the step
  armed its wait. -/
  | line {c : Comparison} {now : Link} {line : String} : s.session.link = some now →
      (link.replies.arm s₀.world.now).Fresh now.replies line →
      Origin s₀ s link since (.compare c) line

/-- A variable was set by the step that a tick ran at `s₀`, as it is seen at `s`: the step
succeeded, its connection has not ended since, the name is one of its pattern, and the value is a
part of the text that it read. -/
inductive Captured (setup : Setup) (s₀ s : Stage) (name value : String) : Prop where
  | intro {engine : Engine} {link : Link} {step : Step} {p : Pattern} {text : String}
      {since : List Effect} : s₀.Succeeds setup engine link step p text →
      name ∈ p.names.map Prod.fst → value.toList <:+: text.toList →
      s.world.trace.effects = s₀.world.trace.effects ++ since → .closed ∉ since →
      Origin s₀ s link since step text → Captured setup s₀ s name value

/-- The link that was held is held still, and its transcript has only grown. -/
def Grows (s s' : Stage) : Prop :=
  ∀ link, s.session.link = some link → ∃ link' more, s'.session.link = some link' ∧
    link'.replies.transcript = link.replies.transcript ++ more

theorem Grows.of_link_eq (h : s'.session.link = s.session.link) : s.Grows s' :=
  fun link hlink => ⟨link, "", h.trans hlink, String.append_empty.symm⟩

/-- What was captured stays captured while the connection lasts. -/
theorem Captured.grow (h : Captured setup s₀ s name value) (hgrows : s.Grows s')
    (heffects : s'.world.trace.effects = s.world.trace.effects ++ new) (hnew : .closed ∉ new) :
    Captured setup s₀ s' name value := by
  cases h with
  | intro hsucceeds hname hpart hsince hclosed horigin =>
    refine .intro hsucceeds hname hpart (by rw [heffects, hsince, List.append_assoc]) ?_ ?_
    · exact fun hmem => (List.mem_append.1 hmem).elim hclosed hnew
    · cases horigin with
      | result hcalled => exact .result (List.mem_append_left _ hcalled)
      | line hnow hfresh =>
        obtain ⟨link', more, hlink', hmore⟩ := hgrows _ hnow
        exact .line hlink' (hfresh.grow hmore)

/-- What a step has just taken from the text that it reads, it has captured. -/
theorem Succeeds.captured {engine : Engine} {link : Link} {step : Step} {p : Pattern}
    {text : String} {wire : Wire} (h : s.Succeeds setup engine link step p text)
    (hfits : (s.session.contact s.world).Fits wire)
    (heffects : s'.world.trace.effects = s.world.trace.effects ++
      engine.newEffects setup.tools (s.session.rig s.world link))
    (hlink : s'.session.link =
      some (step.run setup.tools (engine.trying (s.session.rig s.world link))).2.link)
    (hname : name ∈ p.names.map Prod.fst) (hpart : value.toList <:+: text.toList) :
    Captured setup s s' name value := by
  refine .intro h hname hpart heffects Engine.closed_notMem_newEffects ?_
  have hstep := h.step_eq
  cases h.reads with
  | @result x f text hfunction htext =>
    have hcall : (x.function, x.arguments, some text) ∈ (Step.execute x).calls setup.tools
        (engine.trying (s.session.rig s.world link)) := by
      simp [Step.calls, hfunction, htext, Except.toOption]
    exact .result (Engine.mem_newEffects_of_call hstep hcall)
  | @line c line hline =>
    obtain ⟨-, taken, htaken⟩ := hfits link h.link_eq
    -- Trying an entry takes no time, so that the link is still at the end of the wire.
    have hfollows : link.replies.Follows wire.sent taken
        (engine.trying (s.session.rig s.world link)).trace.now := htaken
    rw [Step.run, c.link_run] at hlink
    exact .line hlink (Link.fresh_of_request hfollows hline)

/-! ### One thing after the other -/

/-- What something that happens does to the variables and the link. -/
inductive Affects (setup : Setup) (s : Stage) (new : List Effect) : Happening → Stage → Prop where
  /-- The connection lasts, and no variable changes. -/
  | keeps {h : Happening} {s' : Stage} : .closed ∉ new →
      s'.session.bindings = s.session.bindings → s.Grows s' → Affects setup s new h s'
  /-- The connection lasts, and a step captures from the text that it reads. -/
  | captures {engine : Engine} {link : Link} {step : Step} {p : Pattern} {text : String}
      {s' : Stage} : s.Succeeds setup engine link step p text →
      new = engine.newEffects setup.tools (s.session.rig s.world link) → .closed ∉ new →
      s.session.bindings.Captures p text s'.session.bindings → s.Grows s' →
      s'.session.link =
        some (step.run setup.tools (engine.trying (s.session.rig s.world link))).2.link →
      Affects setup s new (.wake .tick) s'
  /-- The connection ends. Nothing is left of the variables, or the session is over and keeps
  them. -/
  | ends {h : Happening} {s' : Stage} : .closed ∈ new →
      s'.session.bindings = {} ∨
        s'.session.outcome.isSome ∧ s'.session.bindings = s.session.bindings →
      Affects setup s new h s'

/-- A tick that runs a step keeps the variables or captures, unless the connection is lost. -/
theorem affects_run {engine : Engine} {link : Link} (hstate : s.session.state = .running)
    (hengine : s.session.engine = some engine) (hlink : s.session.link = some link) (setup : Setup)
    (hkeeps : (engine.runNext setup.tools (s.session.rig s.world link)).1 ≠ .transportClosed) :
    s.Affects setup (engine.newEffects setup.tools (s.session.rig s.world link)) (.wake .tick)
      (s.perform setup .tick) := by
  obtain ⟨hbindings, hlink', -⟩ := tick_of_runNext hstate hengine hlink hkeeps
  have hgrows : s.Grows (s.perform setup .tick) := by
    intro l hl
    obtain rfl : link = l := Option.some.inj (hlink.symm.trans hl)
    obtain ⟨more, hmore⟩ := engine.transcript_runNext setup.tools (s.session.rig s.world link)
    exact ⟨_, more, hlink', hmore⟩
  have hadvance : s.session.advance? setup s.world =
      some (engine.runNext setup.tools (s.session.rig s.world link)).1 := by
    simp only [advance?, hstate, hengine, hlink]
  have hsets := engine.sets_runNext setup.tools (s.session.rig s.world link)
  rcases hrun : engine.runNext setup.tools (s.session.rig s.world link) with ⟨advance, e', after⟩
  rw [hrun] at hsets hbindings hlink' hadvance
  cases hsets with
  | nothing hsame => exact .keeps Engine.closed_notMem_newEffects (hbindings.trans hsame) hgrows
  | captured hstep hp hreads hcaptures hafter =>
    refine .captures ⟨hengine, hlink, hstep, hadvance, hp, hreads⟩ rfl
      Engine.closed_notMem_newEffects ?_ hgrows (hlink'.trans (congrArg some hafter))
    rw [← hbindings] at hcaptures
    exact hcaptures

/-- A tick runs a step, writes the transcript, or does nothing. -/
theorem affects_tick (hs : s.session.Coherent) (hallows : s.Allows .tick) (setup : Setup) :
    ∃ new, (s.perform setup .tick).world.trace.effects = s.world.trace.effects ++ new ∧
      s.Affects setup new (.wake .tick) (s.perform setup .tick) := by
  have hsession : (s.perform setup .tick).session = (s.session.tick setup s.world).1 := rfl
  have hworld : (s.perform setup .tick).world = (s.session.tick setup s.world).2 := rfl
  have harmed : s.session.nextTick.isSome := hallows.2
  rw [hworld]
  cases hstate : s.session.state with
  | idle => exact absurd hstate hs.started.1
  | init => exact absurd hstate hs.started.2
  -- Before the sequence is started, no tick is due.
  | awaitTransportSelect => simp [(hs.selecting hstate).2.2.1] at harmed
  | awaitStart => simp [(hs.opened hstate).2.2.1] at harmed
  | awaitContinue =>
    have hheld := tick_of_held hstate setup s.world
    refine ⟨[], by rw [hheld, List.append_nil], .keeps (by simp) ?_ (.of_link_eq ?_)⟩
    · rw [hsession, hheld]
    · rw [hsession, hheld]
  | complete =>
    obtain ⟨link, hlink⟩ := Option.isSome_iff_exists.1 (hs.complete hstate).1
    obtain ⟨new, heffects, hclosed, houtcome, hbindings⟩ := tick_closes hstate hlink setup s.world
    exact ⟨new, heffects, .ends hclosed (.inr ⟨houtcome, hbindings⟩)⟩
  | running =>
    obtain ⟨hsome, -, engine, hengine, -⟩ := hs.underway (.inl hstate)
    obtain ⟨link, hlink⟩ := Option.isSome_iff_exists.1 hsome
    obtain ⟨more, heffects, hends⟩ := effects_tick hstate hengine hlink setup s.world
    rcases hends with ⟨-, ⟨lines, rfl⟩, hrestarted⟩ | ⟨hkeeps, rfl⟩
    · refine ⟨_, heffects,
        .ends (List.mem_append_right _ (closed_mem_restarting lines)) (.inl ?_)⟩
      rw [hsession, hrestarted]
      rfl
    · rw [List.append_nil] at heffects
      exact ⟨_, heffects, affects_run hstate hengine hlink setup hkeeps⟩

/-- What arrives is taken, or ends the connection. -/
theorem affects_arrival (hs : s.session.Coherent) (setup : Setup) : ∃ new,
    (s.perform setup .arrival).world.trace.effects = s.world.trace.effects ++ new ∧
      s.Affects setup new (.wake .arrival) (s.perform setup .arrival) := by
  have hsession : (s.perform setup .arrival).session = (s.session.attend setup s.world).1 := rfl
  have hworld : (s.perform setup .arrival).world = (s.session.attend setup s.world).2 := rfl
  have hstay (hattend : s.session.attend setup s.world = (s.session, s.world)) : ∃ new,
      (s.perform setup .arrival).world.trace.effects = s.world.trace.effects ++ new ∧
        s.Affects setup new (.wake .arrival) (s.perform setup .arrival) := by
    refine ⟨[], by rw [hworld, hattend, List.append_nil], .keeps (by simp) ?_ (.of_link_eq ?_)⟩
    · rw [hsession, hattend]
    · rw [hsession, hattend]
  -- Without a link, or with nothing due on it, the session stays as it is.
  cases hlink : s.session.link with
  | none => exact hstay (by rw [attend, hlink])
  | some link =>
    cases hpump : link.replies.pump? s.world.now with
    | none => exact hstay (by rw [attend, hlink]; simp only [hpump])
    | some pumped =>
      obtain ⟨isOpen, replies⟩ := pumped
      cases isOpen with
      | true =>
        have hattend : s.session.attend setup s.world =
            ({ s.session with link := some { link with replies } }, s.world) := by
          rw [attend, hlink]
          simp only [hpump]
        obtain ⟨taken, htaken⟩ := Stream.takes_pump hpump
        refine ⟨[], by rw [hworld, hattend, List.append_nil], .keeps (by simp) ?_ fun l hl => ?_⟩
        · rw [hsession, hattend]
        · obtain rfl : link = l := Option.some.inj (hlink.symm.trans hl)
          exact ⟨_, _, by rw [hsession, hattend], htaken.transcript_eq⟩
      | false =>
        have hattend := attend_of_closed hs.started.2 hlink hpump setup
        obtain ⟨lines, hlines⟩ := effects_listPorts_lost setup s.world
        refine ⟨_, ?_, .ends (closed_mem_restarting lines) (.inl ?_)⟩
        · rw [hworld, hattend, hlines]
        · rw [hsession, hattend]
          rfl

/-- Whatever happens to a coherent session keeps its variables and its link, captures, or ends the
connection. -/
theorem affects_happen (hs : s.session.Coherent) (setup : Setup) (h : Happening) : ∃ new,
      (s.happen setup h).world.trace.effects = s.world.trace.effects ++ new ∧
        s.Affects setup new h (s.happen setup h) := by
  -- What the device sends is not in the transcript before it is taken.
  have hinbox (h : Happening) (change : Reply.Inbox → Reply.Inbox) : ∃ new,
      (s.withInbox change).world.trace.effects = s.world.trace.effects ++ new ∧
        s.Affects setup new h (s.withInbox change) := by
    refine ⟨[], (List.append_nil _).symm, .keeps (by simp) rfl fun link hlink => ?_⟩
    refine ⟨{ link with replies.inbox := change link.replies.inbox }, "", ?_,
      String.append_empty.symm⟩
    rw [withInbox, hlink]
    rfl
  cases h with
  | wait time =>
    exact ⟨[], by simp [happen, waitUntil], .keeps (by simp) rfl (.of_link_eq rfl)⟩
  | send delay a => exact hinbox _ _
  | hangUp => exact hinbox _ _
  | change files => exact ⟨[], (List.append_nil _).symm, .keeps (by simp) rfl (.of_link_eq rfl)⟩
  | wake o =>
    by_cases hallows : s.Allows o
    · rw [happen, if_pos hallows]
      cases o with
      | line text =>
        obtain ⟨new, heffects, hturn⟩ := turn_perform (o := .line text) hs (by simp) setup
        refine ⟨new, heffects, .keeps hturn.line.1 hturn.line.2 ?_⟩
        -- Only while there is no link can a line open one.
        by_cases hstate : s.session.state = .awaitTransportSelect
        · intro link hlink
          rw [(hs.selecting hstate).1] at hlink
          cases hlink
        · exact .of_link_eq (link_handle_input hstate setup text s.world)
      | operatorLeaves =>
        exact ⟨[], (List.append_nil _).symm, .keeps (by simp) rfl (.of_link_eq rfl)⟩
      | tick => exact affects_tick hs hallows setup
      | arrival => exact affects_arrival hs setup
    · rw [happen, if_neg hallows]
      exact ⟨[], (List.append_nil _).symm, .keeps (by simp) rfl (.of_link_eq rfl)⟩

/-- A variable of a session that goes on has just been captured, or it was there before and stays
captured. -/
theorem captured_happen {wire : Wire} {files : FileTree} (hs : s.Unsaved setup wire files)
    {h : Happening} (houtcome : (s.happen setup h).session.outcome = none)
    (hvalue : (s.happen setup h).session.bindings.get? name = some value) :
    h = .wake .tick ∧ Captured setup s (s.happen setup h) name value ∨
      s.session.bindings.get? name = some value ∧ ∀ s₀, Captured setup s₀ s name value →
        Captured setup s₀ (s.happen setup h) name value := by
  obtain ⟨new, heffects, haffects⟩ := affects_happen hs.coherent setup h
  cases haffects with
  | keeps hclosed hbindings hgrows =>
    rw [hbindings] at hvalue
    exact .inr ⟨hvalue, fun _ hcaptured => hcaptured.grow hgrows heffects hclosed⟩
  | captures hsucceeds hnew hclosed hcaptures hgrows hlink =>
    rcases hcaptures.source name value hvalue with hold | ⟨hname, hpart⟩
    · exact .inr ⟨hold, fun _ hcaptured => hcaptured.grow hgrows heffects hclosed⟩
    · subst hnew
      exact .inl ⟨rfl, hsucceeds.captured hs.fits heffects hlink hname hpart⟩
  | ends hclosed hleft =>
    rcases hleft with hempty | ⟨hsome, -⟩
    · rw [hempty] at hvalue
      cases hvalue
    · rw [houtcome] at hsome
      cases hsome

/-- While the connection lasts, no variable is removed, and only a step with a pattern that succeeds
changes any. -/
theorem variables_happen (hs : s.session.Sound) (setup : Setup) (h : Happening) : ∃ new,
    (s.happen setup h).world.trace.effects = s.world.trace.effects ++ new ∧
      (.closed ∉ new →
        (∀ name, (s.session.bindings.get? name).isSome →
          ((s.happen setup h).session.bindings.get? name).isSome) ∧
        ((s.happen setup h).session.bindings = s.session.bindings ∨
          h = .wake .tick ∧ ∃ engine link step p text,
            s.Succeeds setup engine link step p text)) := by
  cases hs with
  | ended houtcome hlink =>
    obtain ⟨hsession, -⟩ := happen_of_ended houtcome hlink setup h
    refine ⟨[], by rw [effects_happen_of_ended houtcome, List.append_nil], fun _ => ?_⟩
    rw [hsession]
    exact ⟨fun _ => id, .inl rfl⟩
  | goesOn houtcome hs =>
    obtain ⟨new, heffects, haffects⟩ := affects_happen hs setup h
    refine ⟨new, heffects, fun hnew => ?_⟩
    cases haffects with
    | keeps _ hsame _ =>
      rw [hsame]
      exact ⟨fun _ => id, .inl rfl⟩
    | captures hsucceeds _ _ hcaptures _ _ =>
      exact ⟨hcaptures.keeps, .inr ⟨rfl, _, _, _, _, _, hsucceeds⟩⟩
    | ends hclosed _ => exact absurd hclosed hnew

/-! ### Runs -/

/-- While the connection lasts, no variable is removed. -/
theorem variables_play (hs : s.session.Sound) (setup : Setup) (later : List Happening) : ∃ new,
    (s.play setup later).world.trace.effects = s.world.trace.effects ++ new ∧
      (.closed ∉ new → ∀ name, (s.session.bindings.get? name).isSome →
        ((s.play setup later).session.bindings.get? name).isSome) := by
  induction later generalizing s with
  | nil => exact ⟨[], (List.append_nil _).symm, fun _ _ => id⟩
  | cons h later ih =>
    obtain ⟨new, heffects, hkept⟩ := variables_happen hs setup h
    obtain ⟨more, hmore, hlater⟩ := ih (sound_happen hs setup h)
    refine ⟨new ++ more, by rw [play_cons, hmore, heffects, List.append_assoc], ?_⟩
    intro hclosed name hname
    obtain ⟨hnew, hrest⟩ := not_or.1 (mt List.mem_append.2 hclosed)
    exact hlater hrest name ((hkept hnew).1 name hname)

section

variable (setup : Setup) (files : FileTree) (operator : Operator) (happenings : List Happening)

/-- Every variable of a session that goes on was captured in the connection that lasts. -/
theorem captured_play
    (houtcome : ((started setup files operator).play setup happenings).session.outcome = none)
    (hvalue : ((started setup files operator).play setup happenings).session.bindings.get? name =
      some value) :
    ∃ before later, happenings = before ++ .wake .tick :: later ∧
      Captured setup ((started setup files operator).play setup before)
        ((started setup files operator).play setup happenings) name value := by
  -- What happened last is looked at first.
  induction happenings using List.reverseRecOn generalizing value with
  | nil => cases hvalue
  | append_singleton happenings h ih =>
    have hplay : (started setup files operator).play setup (happenings ++ [h]) =
        ((started setup files operator).play setup happenings).happen setup h :=
      play_append ..
    rw [hplay] at houtcome hvalue ⊢
    rcases unsaved_or_flushed setup files operator happenings with
      hs | ⟨before, later, -, -, -, hended, hnone, hsame⟩
    · rcases captured_happen hs houtcome hvalue with ⟨rfl, hcaptured⟩ | ⟨hold, hstays⟩
      · exact ⟨happenings, [], rfl, hcaptured⟩
      · obtain ⟨before, later, hsplit, hcaptured⟩ := ih hs.outcome hold
        exact ⟨before, later ++ [h], by simp [hsplit], hstays _ hcaptured⟩
    · -- A session that is over is over for good.
      rw [← hsame] at hended hnone
      rw [(happen_of_ended hended hnone setup h).1] at houtcome
      rw [houtcome] at hended
      cases hended

/-- A session that is over has the variables that it had before the tick that ended it. -/
theorem bindings_of_ended
    (houtcome : ((started setup files operator).play setup happenings).session.outcome.isSome) :
    ∃ before later, happenings = before ++ .wake .tick :: later ∧
      let s₀ := (started setup files operator).play setup before
      s₀.session.outcome = none ∧ s₀.session.state = .complete ∧
        ((started setup files operator).play setup happenings).session.bindings =
          s₀.session.bindings := by
  rcases unsaved_or_flushed setup files operator happenings with
    hs | ⟨before, later, hsplit, hs, hstate, -, -, hsame⟩
  · rw [hs.outcome] at houtcome
    cases houtcome
  · refine ⟨before, later, hsplit, hs.outcome, hstate, ?_⟩
    obtain ⟨hallows, -⟩ := hs.flushes hstate
    obtain ⟨link, hlink⟩ := Option.isSome_iff_exists.1 (hs.coherent.complete hstate).1
    obtain ⟨-, -, -, -, hbindings⟩ := tick_closes hstate hlink setup
      ((started setup files operator).play setup before).world
    rw [hsame, happen, if_pos hallows]
    exact hbindings

end

/-- Whatever happens, in whatever order: while a session goes on, every variable was captured by a
step that succeeded in the connection that lasts, from what its function returned or from a line of
the transcript of the link that is held, and its name is one of the pattern of that step. A session
that is over keeps the variables that it had when the tick came that ended it. However much happens
then, no variable is removed until the connection ends, and only a tick whose step has a pattern and
succeeds changes any. In particular, an engine changes no variable when it runs a step without a
pattern. -/
theorem variables_provenance (setup : Setup) (files : FileTree) (operator : Operator)
    (happenings : List Happening) :
    let s := (started setup files operator).play setup happenings
    (s.session.outcome = none → ∀ name value, s.session.bindings.get? name = some value →
      ∃ before later, happenings = before ++ .wake .tick :: later ∧
        Captured setup ((started setup files operator).play setup before) s name value) ∧
      (s.session.outcome.isSome → ∃ before later, happenings = before ++ .wake .tick :: later ∧
        let s₀ := (started setup files operator).play setup before
        s₀.session.outcome = none ∧ s₀.session.state = .complete ∧
          s.session.bindings = s₀.session.bindings) ∧
      (∀ later, ∃ new,
        (s.play setup later).world.trace.effects = s.world.trace.effects ++ new ∧
          (.closed ∉ new → ∀ name, (s.session.bindings.get? name).isSome →
            ((s.play setup later).session.bindings.get? name).isSome)) ∧
      (∀ h, ∃ new, (s.happen setup h).world.trace.effects = s.world.trace.effects ++ new ∧
        (.closed ∉ new → (s.happen setup h).session.bindings ≠ s.session.bindings →
          h = .wake .tick ∧ ∃ engine link step p text,
            s.Succeeds setup engine link step p text)) ∧
      ∀ (engine : Engine) (r : Rig), (engine.step? r).bind Step.pattern? = none →
        (engine.runNext setup.tools r).2.2.bindings = r.bindings := by
  intro s
  have hsound : s.session.Sound := sound_play setup files operator happenings
  refine ⟨fun houtcome _ _ hvalue => captured_play setup files operator happenings houtcome hvalue,
    bindings_of_ended setup files operator happenings, variables_play hsound setup, fun h => ?_,
    fun _ _ => Engine.bindings_runNext_of_no_pattern⟩
  obtain ⟨new, heffects, hkept⟩ := variables_happen hsound setup h
  exact ⟨new, heffects, fun hnew hchanged => (hkept hnew).2.resolve_left hchanged⟩

/-- What stands in the group is the value of the variable, until the connection ends. -/
example :
    let files : FileTree :=
      { entries := [(["c"], .file (Text.Utf8.encode "=A|(?<v>K)")), (["s"], .file [48])] }
    let s := (started Sample.setup files {}).play Sample.setup
      [.wake (.line "p"), .wake (.line ""), .send 1 (.data [79, 75, 13, 10]), .wake .tick]
    s.session.bindings.get? "v" = some "K" ∧
      (s.play Sample.setup [.hangUp, .wake .arrival]).session.bindings.get? "v" = none := by
  decide +kernel

end Stage

end BringUp
