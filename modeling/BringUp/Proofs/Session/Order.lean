import BringUp.Proofs.Session.Coherence
import BringUp.Proofs.Session.Connections

/-!
# The steps of a sequence are tried in order

Going on after a pause enters the running state again, and entering that state loads the sequence
and starts it over, unless the clock is armed. That the clock is armed whenever a sequence is held
is what keeps the steps in order.

* `Session.Turn.orderly`: no rule tries a step out of order.
* `Session.Turn.held`, `Session.Turn.completed`: what is done without the operator in a pause, and
  at the end.
* `Stage.tries_in_order`: the order of the steps in every run.
-/

namespace BringUp

/-- The state to which the end of a step leads. -/
def Advance.leadsTo : Advance → SessionState
  | .next => .running
  | .pause => .awaitContinue
  | .exhausted | .failed _ => .complete
  | .transportClosed => .awaitTransportSelect

namespace Session

open Effect

/-- How far the latest connection is, as the state says. -/
structure Orderly (setup : Setup) (es : List Effect) (s : Session) : Prop where
  /-- All connections are in order. -/
  all : AllInOrder setup es
  /-- Before the sequence is started, no step has been tried and no file read. -/
  opened : s.state = .awaitStart → ∀ since, Latest es since →
    since.filterMap tried? = [] ∧ since.filterMap read? = []
  /-- While the sequence runs or is held, the steps before the cursor have been tried. -/
  underway : s.state = .running ∨ s.state = .awaitContinue → ∀ engine, s.engine = some engine →
    ∀ since, Latest es since → since.filterMap tried? = List.range engine.cursor

variable {setup : Setup} {es new : List Effect} {s s' : Session} {o : Occurrence}

/-- A session that is neither about to start a sequence nor in the middle of one. -/
theorem Orderly.of_all (hall : AllInOrder setup es)
    (hstate : s.state = .awaitTransportSelect ∨ s.state = .complete) : Orderly setup es s where
  all := hall
  opened h := by rcases hstate with hstate | hstate <;> simp [hstate] at h
  underway h := by rcases hstate with hstate | hstate <;> simp [hstate] at h

/-- When a connection ends, no step is tried and no file read. -/
theorem isAside_restarting {lines : List String} : ∀ e ∈ restarting lines, e.IsAside := by
  simp [restarting, IsAside]

/-- The step at the cursor is the next one. -/
theorem Orderly.all_tried {engine : Engine} (hs : Orderly setup es s) (hstate : s.state = .running)
    (hengine : s.engine = some engine) (hnew : ∀ e ∈ new, e.IsAside) :
    AllInOrder setup (es ++ .tried engine.cursor :: new) ∧
      ∀ since, Latest (es ++ .tried engine.cursor :: new) since →
        since.filterMap tried? = List.range (engine.cursor + 1) := by
  have htries (since : List Effect) (hsince : Latest es since) :
      (since ++ .tried engine.cursor :: new).filterMap tried? =
        List.range (engine.cursor + 1) := by
    rw [List.filterMap_append, hs.underway (.inl hstate) engine hengine since hsince,
      List.filterMap_cons, filterMap_tried?_aside hnew, List.range_succ]
    rfl
  have hopened : ∀ e ∈ .tried engine.cursor :: new, ¬ e.IsOpened :=
    List.forall_mem_cons.2 ⟨id, fun e he => (hnew e he).not_isOpened⟩
  refine ⟨hs.all.append hopened fun since hsince => ⟨⟨_, htries since hsince⟩, ?_⟩, ?_⟩
  · rw [List.filterMap_append, List.filterMap_cons_none rfl, filterMap_read?_aside hnew,
      List.append_nil]
    exact (hs.all.latest hsince).reads
  · intro since hsince
    obtain ⟨since', rfl, hsince'⟩ := hsince.of_append hopened
    exact htries since' hsince'

/-- The files are read when nothing has been done with the link. -/
theorem Orderly.all_read {paths : List String} (hs : Orderly setup es s)
    (hstate : s.state = .awaitStart)
    (hpaths : paths <+: [setup.settings.commandList, setup.settings.commandSequence]) :
    AllInOrder setup (es ++ paths.map .read) ∧
      ∀ since, Latest (es ++ paths.map .read) since → since.filterMap tried? = [] := by
  have hopened : ∀ e ∈ paths.map Effect.read, ¬ e.IsOpened := by simp [IsOpened]
  have htries : (paths.map Effect.read).filterMap tried? = [] := by simp [tried?]
  have hreads : (paths.map Effect.read).filterMap read? = paths := by
    rw [List.filterMap_map]
    exact List.filterMap_some
  refine ⟨hs.all.append hopened fun since hsince => ?_, fun since hsince => ?_⟩
  · obtain ⟨hnoTries, hnoReads⟩ := hs.opened hstate since hsince
    refine ⟨⟨0, ?_⟩, ?_⟩
    · rw [List.filterMap_append, hnoTries, htries]
      rfl
    · rwa [List.filterMap_append, hnoReads, hreads]
  · obtain ⟨since', rfl, hsince'⟩ := hsince.of_append hopened
    rw [List.filterMap_append, (hs.opened hstate since' hsince').1, htries]
    rfl

/-- No rule tries a step out of order, or reads a file again. -/
theorem Turn.orderly (h : Turn setup o s new s') (hs : Orderly setup es s) :
    Orderly setup (es ++ new) s' := by
  cases h with
  | rest hlink htick hquiet =>
    rw [List.append_nil]
    exact ⟨hs.all, hs.opened, hs.underway⟩
  | refuse port line hstate =>
    exact .of_all (hs.all.aside (by simp [IsAside])) (.inl hstate)
  | @connect text _ link port line line' hstate hquiet =>
    have hsplit : es ++ [.opening port setup.settings.baud, .opened link.name, .shown line,
        .shown line'] = ((es ++ [.opening port setup.settings.baud]) ++ [.opened link.name]) ++
          [.shown line, .shown line'] := by simp
    have haside : ∀ e ∈ [Effect.shown line, Effect.shown line'], e.IsAside := by simp [IsAside]
    have hconnect : AllInOrder setup
        ((es ++ [.opening port setup.settings.baud]) ++ [.opened link.name]) :=
      (hs.all.aside (by simp [IsAside])).concat (.inl trivial)
    -- The new connection starts with the lines that are shown to the operator.
    rw [hsplit]
    refine ⟨hconnect.aside haside, fun _ since hsince => ?_, by simp⟩
    obtain ⟨since', rfl, hsince'⟩ := hsince.of_append fun e he => (haside e he).not_isOpened
    rw [hsince'.of_opened]
    exact ⟨rfl, rfl⟩
  | load nextTick hstate hcursor =>
    -- No step has been tried, and the new engine stands at the first one.
    obtain ⟨hall, htries⟩ := hs.all_read hstate List.prefix_rfl
    refine ⟨hall, by simp, ?_⟩
    rintro - _ ⟨⟩ since hsince
    rw [hcursor]
    exact htries since hsince
  | loadFail line nextTick hstate hpaths =>
    rw [← List.append_assoc]
    exact .of_all ((hs.all_read hstate hpaths).1.aside (by simp [IsAside])) (.inr rfl)
  | resume hstate =>
    rw [List.append_nil]
    -- Going on loads nothing, so that the cursor is where the pause left it.
    exact ⟨hs.all, by simp, fun _ => hs.underway (.inr hstate)⟩
  | step bindings nextTick hstate hengine hcursor hnext hnew hquiet =>
    obtain ⟨hall, htries⟩ := hs.all_tried hstate hengine fun e he => (hnew e he).isAside
    refine ⟨hall, fun hopened => ?_, ?_⟩
    · rcases hnext with h | h <;> cases h.symm.trans hopened
    · rintro - _ ⟨⟩
      exact htries
  | fail nextTick hstate hengine hcursor hnew hquiet =>
    exact .of_all (hs.all_tried hstate hengine fun e he => (hnew e he).isAside).1 (.inr rfl)
  | exhaust nextTick hstate hengine hcursor =>
    rw [List.append_nil]
    exact .of_all hs.all (.inr rfl)
  | lose lines hstate hengine hcursor hnew =>
    refine .of_all (hs.all_tried hstate hengine fun e he => ?_).1 (.inl rfl)
    exact (List.mem_append.1 he).elim (fun he => (hnew e he).isAside) (isAside_restarting e)
  | close lines hlink => exact .of_all (hs.all.aside isAside_restarting) (.inl rfl)
  | finish path lines outcome hstate =>
    exact .of_all (hs.all.aside (by simp [IsAside])) (.inr hstate)

/-! ### Pauses and the end of a sequence -/

/-- Without a line of the operator, no step is tried in a pause. It goes on until the connection
ends, and no step is tried after that either. -/
theorem Turn.held (h : Turn setup o s new s') (hline : ∀ text, o ≠ .line text)
    (hstate : s.state = .awaitContinue ∨ s.state = .awaitTransportSelect) :
    new.filterMap tried? = [] ∧
      (s'.state = s.state ∧ s'.engine = s.engine ∨
        .closed ∈ new ∧ s'.state = .awaitTransportSelect) := by
  cases h with
  | rest hlink htick hquiet => exact ⟨rfl, .inl ⟨rfl, rfl⟩⟩
  | close lines hlink =>
    exact ⟨filterMap_tried?_aside isAside_restarting, .inr ⟨by simp [restarting], rfl⟩⟩
  | step _ _ hother | fail _ hother | exhaust _ hother | lose _ hother => simp [hother] at hstate
  | finish _ _ _ hother => simp [hother] at hstate
  -- The other rules are for lines of the operator.
  | _ => exact absurd rfl (hline _)

/-- Once a sequence has come to its end, nothing is done but ending the connection. -/
theorem Turn.completed (h : Turn setup o s new s') (hstate : s.state = .complete) :
    new = [] ∧ s'.state = .complete ∧ s'.bindings = s.bindings ∨
      ∃ before after, new = before ++ .closed :: after ∧ ∀ e ∈ before, ¬ e.IsAction := by
  cases h with
  | rest hlink htick hquiet => exact .inl ⟨rfl, hstate, rfl⟩
  | close lines hlink =>
    exact .inr ⟨[.shown "Port closed"], .listed :: lines.map .shown, rfl, by simp [IsAction]⟩
  | finish path lines outcome hcomplete =>
    exact .inr ⟨[.saving path], lines.map .shown, rfl, by simp [IsAction]⟩
  -- The other rules are for other states.
  | refuse _ _ hother | connect _ _ _ hother | resume hother => simp [hother] at hstate
  | load _ hother | loadFail _ _ hother => simp [hother] at hstate
  | step _ _ hother | fail _ hother | exhaust _ hother | lose _ hother => simp [hother] at hstate

/-- How the step ends that a session runs at its next tick, if it runs one. -/
def advance? (setup : Setup) (w : World) (s : Session) : Option Advance :=
  match s.state, s.engine, s.link with
  | .running, some engine, some link => some (engine.runNext setup.tools (s.rig w link)).1
  | _, _, _ => none

/-- A tick runs a step, and unless that loses the connection, the session goes on with what the step
leaves, in the state that fits its end. The clock is armed anew from the end of the step on. -/
theorem tick_of_kept {w : World} {engine : Engine} {link : Link} (hstate : s.state = .running)
    (hengine : s.engine = some engine) (hlink : s.link = some link)
    (hkept : (engine.runNext setup.tools (s.rig w link)).1 ≠ .transportClosed) :
    tick setup w s =
      match engine.runNext setup.tools (s.rig w link) with
      | (advance, engine', r) =>
        ({ s with
            state := advance.leadsTo
            engine := some engine'
            link := some r.link
            bindings := r.bindings
            nextTick := some (r.trace.now + setup.settings.stepInterval) },
          { w with trace := r.trace }) := by
  rw [tick, handle, dispatch_running hstate, runStep_eq hengine hlink]
  generalize engine.runNext setup.tools (s.rig w link) = result at hkept
  obtain ⟨advance, engine', r⟩ := result
  cases advance with
  | next => simp [Advance.leadsTo, hstate]
  | pause => simp [moveTo, hstate, Advance.leadsTo]
  | exhausted => simp [moveTo, hstate, Advance.leadsTo]
  | failed error => simp [moveTo, hstate, Advance.leadsTo]
  | transportClosed => exact absurd rfl hkept

/-- A tick leads to the state that fits the end of its step. -/
theorem state_tick {w : World} {advance : Advance} (h : s.advance? setup w = some advance) :
    (tick setup w s).1.state = advance.leadsTo := by
  unfold advance? at h
  split at h
  · rename_i engine link hstate hengine hlink
    obtain rfl : (engine.runNext setup.tools (s.rig w link)).1 = advance := Option.some.inj h
    by_cases hkept : (engine.runNext setup.tools (s.rig w link)).1 = .transportClosed
    · rw [tick, handle, dispatch_running hstate, runStep_eq hengine hlink]
      generalize engine.runNext setup.tools (s.rig w link) = result at hkept
      obtain ⟨advance, engine', r⟩ := result
      obtain rfl : advance = .transportClosed := hkept
      obtain ⟨lines, w', hreset, -⟩ := reset_eq
        (s := { s with
          engine := some engine', link := some r.link, bindings := r.bindings, nextTick := none })
        (by simp [hstate]) rfl setup { w with trace := r.trace }
      simp only [hreset]
      rfl
    · rw [tick_of_kept hstate hengine hlink hkept]
  · cases h

end Session

/-- A line of the operator. -/
def Happening.IsLine : Happening → Prop
  | .wake (.line _) => True
  | _ => False

namespace Stage

open Effect Session

/-- What has been done is not undone by what happens. -/
theorem effects_play {s : Stage} (hs : s.session.Sound) (setup : Setup)
    (happenings : List Happening) : ∃ new,
      (s.play setup happenings).world.trace.effects = s.world.trace.effects ++ new := by
  induction happenings generalizing s with
  | nil => exact ⟨[], by simp [play]⟩
  | cons h happenings ih =>
    obtain ⟨o, -, new, heffects, -⟩ := turns_happen hs setup h
    obtain ⟨more, hmore⟩ := ih (sound_happen hs setup h)
    refine ⟨new ++ more, ?_⟩
    rw [play_cons, hmore, heffects, List.append_assoc]

/-- A session that has just started has only listed the ports. -/
theorem orderly_started (setup : Setup) (files : FileTree) (operator : Operator) :
    (started setup files operator).session.Orderly setup
      (started setup files operator).world.trace.effects := by
  obtain ⟨lines, hlines⟩ := effects_listPorts setup { files }
  have hworld : (started setup files operator).world = listPorts setup { files } := rfl
  have hnone : AllInOrder setup [] := fun before link during after h => by simp at h
  rw [hworld, hlines]
  exact .of_all (hnone.aside (by simp [IsAside])) (.inl rfl)

/-- No order of happenings brings the steps out of order. -/
theorem orderly_play (setup : Setup) (files : FileTree) (operator : Operator)
    (happenings : List Happening) :
    ((started setup files operator).play setup happenings).session.Orderly setup
      ((started setup files operator).play setup happenings).world.trace.effects := by
  refine (keep_play (P := fun s =>
      s.session.Sound ∧ s.session.Orderly setup s.world.trace.effects)
    (fun s h _ hs => ?_) ⟨sound_play setup files operator [], orderly_started _ _ _⟩).2
  obtain ⟨hsound, horderly⟩ := hs
  obtain ⟨o, -, new, heffects, hturn⟩ := turns_happen hsound setup h
  refine ⟨sound_happen hsound setup h, ?_⟩
  rw [heffects]
  exact hturn.orderly horderly

/-- Without a line of the operator a pause goes on until the connection ends, and no step is
tried. -/
theorem held_play {s : Stage} {happenings : List Happening} (hs : s.session.Sound)
    (setup : Setup) (hlines : ∀ h ∈ happenings, ¬ h.IsLine)
    (hstate : s.session.state = .awaitContinue ∨ s.session.state = .awaitTransportSelect) :
    ∃ new, (s.play setup happenings).world.trace.effects = s.world.trace.effects ++ new ∧
      new.filterMap tried? = [] ∧
      ((s.play setup happenings).session.state = s.session.state ∧
          (s.play setup happenings).session.engine = s.session.engine ∨
        .closed ∈ new ∧ (s.play setup happenings).session.state = .awaitTransportSelect) := by
  induction happenings generalizing s with
  | nil => exact ⟨[], by simp [play], rfl, .inl ⟨rfl, rfl⟩⟩
  | cons h happenings ih =>
    obtain ⟨o, hline, new, heffects, hturn⟩ := turns_happen hs setup h
    have hnoLine : ∀ text, o ≠ .line text := by
      rintro text rfl
      obtain rfl := hline text rfl
      exact hlines _ List.mem_cons_self trivial
    obtain ⟨htries, hafter⟩ := hturn.held hnoLine hstate
    have hstate' : (s.happen setup h).session.state = .awaitContinue ∨
        (s.happen setup h).session.state = .awaitTransportSelect := by
      rcases hafter with ⟨hsame, -⟩ | ⟨-, hselect⟩
      · rwa [hsame]
      · exact .inr hselect
    obtain ⟨more, hmore, hmoreTries, hend⟩ := ih (sound_happen hs setup h)
      (fun h hmem => hlines h (List.mem_cons_of_mem _ hmem)) hstate'
    refine ⟨new ++ more, ?_, ?_, ?_⟩
    · rw [play_cons, hmore, heffects, List.append_assoc]
    · rw [List.filterMap_append, htries, hmoreTries, List.append_nil]
    · -- A connection that has ended is not opened again without a line.
      rcases hend with ⟨hstateEnd, hengineEnd⟩ | ⟨hclosed, hselect⟩
      · rcases hafter with ⟨hsame, hengine⟩ | ⟨hclosed, hselect⟩
        · exact .inl ⟨hstateEnd.trans hsame, hengineEnd.trans hengine⟩
        · exact .inr ⟨List.mem_append_left _ hclosed, hstateEnd.trans hselect⟩
      · exact .inr ⟨List.mem_append_right _ hclosed, hselect⟩

/-- What comes before the first end of a connection comes before any one. -/
theorem mem_of_mem_takeWhile {before after : List Effect} {e : Effect}
    (h : e ∈ (before ++ .closed :: after).takeWhile (· ≠ .closed)) : e ∈ before := by
  induction before with
  | nil => simp at h
  | cons b before ih =>
    rw [List.cons_append, List.takeWhile_cons] at h
    split at h
    · rcases List.mem_cons.1 h with rfl | h
      · exact List.mem_cons_self
      · exact List.mem_cons_of_mem _ (ih h)
    · cases h

/-- Once a sequence has come to its end, nothing is done on its connection. -/
theorem completed_play {s : Stage} (hs : s.session.Sound)
    (hstate : s.session.state = .complete) (setup : Setup) (happenings : List Happening) :
    ∃ new, (s.play setup happenings).world.trace.effects = s.world.trace.effects ++ new ∧
      (∀ e ∈ new.takeWhile (· ≠ .closed), ¬ e.IsAction) ∧
      (.closed ∉ new → (s.play setup happenings).session.bindings = s.session.bindings) := by
  induction happenings generalizing s with
  | nil => exact ⟨[], by simp [play], by simp, fun _ => rfl⟩
  | cons h happenings ih =>
    obtain ⟨o, -, new, heffects, hturn⟩ := turns_happen hs setup h
    have hsound := sound_happen hs setup h
    rcases hturn.completed hstate with ⟨rfl, hcomplete, hbindings⟩ | ⟨before, after, rfl, hbefore⟩
    · obtain ⟨more, hmore, hactions, hsame⟩ := ih hsound hcomplete
      refine ⟨more, ?_, hactions, fun hclosed => (hsame hclosed).trans hbindings⟩
      rw [play_cons, hmore, heffects, List.append_nil]
    · -- The connection has ended, so that whatever comes later is not looked at.
      obtain ⟨more, hmore⟩ := effects_play hsound setup happenings
      refine ⟨before ++ .closed :: after ++ more, ?_, ?_, ?_⟩
      · rw [play_cons, hmore, heffects, List.append_assoc]
      · intro e he
        rw [List.append_assoc, List.cons_append] at he
        exact hbefore e (mem_of_mem_takeWhile he)
      · simp

/-- While a sequence runs, the clock may tick. -/
theorem allows_tick_of_running {s : Stage} {link : Link} (hs : s.session.Sound)
    (hstate : s.session.state = .running) (hlink : s.session.link = some link) :
    s.Allows .tick := by
  have houtcome : s.session.outcome = none := hs.outcome_of_link hlink
  refine ⟨?_, ((hs.coherent houtcome).underway (.inl hstate)).2.1⟩
  simp [ending?, houtcome, hstate, SessionState.awaitsInput]

/-- A step that is due is run at the next tick. -/
theorem happen_tick {s : Stage} {setup : Setup} {advance : Advance} (hs : s.session.Sound)
    (h : s.session.advance? setup s.world = some advance) :
    (s.happen setup (.wake .tick)).session.state = advance.leadsTo := by
  have hallows : s.Allows .tick := by
    have hstep := h
    unfold advance? at hstep
    split at hstep
    · rename_i hstate _ hlink
      exact allows_tick_of_running hs hstate hlink
    · cases hstep
  rw [happen, if_pos hallows]
  exact state_tick h

/-- Whatever happens, the steps of a sequence are tried in order in every connection, each of them
at most once and none left out, and the files are read at most once. After a step that asks for a
pause no step is tried before the operator goes on, unless the connection ends. After a step that
fails, and at the end of the sequence, no step is tried, no function called, nothing written and no
variable changed until the connection ends. -/
theorem tries_in_order (setup : Setup) (files : FileTree) (operator : Operator)
    (happenings : List Happening) :
    let s := (started setup files operator).play setup happenings
    let after := s.happen setup (.wake .tick)
    AllInOrder setup s.world.trace.effects ∧
      (s.session.advance? setup s.world = some .pause →
        ∀ later, (∀ h ∈ later, ¬ h.IsLine) → ∃ new,
          (after.play setup later).world.trace.effects = after.world.trace.effects ++ new ∧
            new.filterMap tried? = [] ∧
            ((after.play setup later).session.state = .awaitContinue ∧
                (after.play setup later).session.engine = after.session.engine ∨
              .closed ∈ new)) ∧
      ∀ advance, s.session.advance? setup s.world = some advance →
        (advance = .exhausted ∨ ∃ error, advance = .failed error) → ∀ later, ∃ new,
          (after.play setup later).world.trace.effects = after.world.trace.effects ++ new ∧
            (∀ e ∈ new.takeWhile (· ≠ .closed), ¬ e.IsAction) ∧
            (.closed ∉ new →
              (after.play setup later).session.bindings = after.session.bindings) := by
  intro s after
  have hs : s.session.Sound := sound_play setup files operator happenings
  have hafter : after.session.Sound := sound_happen hs setup _
  refine ⟨(orderly_play setup files operator happenings).all, fun hpause later hlines => ?_,
    fun advance hadvance hend later => ?_⟩
  · have hstate : after.session.state = .awaitContinue := happen_tick hs hpause
    obtain ⟨new, hnew, htries, hheld⟩ := held_play hafter setup hlines (.inl hstate)
    rw [hstate] at hheld
    exact ⟨new, hnew, htries, hheld.imp id And.left⟩
  · have hstate : after.session.state = .complete := by
      rcases hend with rfl | ⟨error, rfl⟩ <;> exact happen_tick hs hadvance
    exact completed_play hafter hstate setup later

example : Sample.held.world.trace.effects.filterMap tried? = [0, 1] := by decide

end Stage

end BringUp
