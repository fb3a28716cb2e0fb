import BringUp.Proofs.Session.Wire

/-!
# How a session goes on

Whatever a session does with an event, its link is at the end of the wire afterwards, and unless the
event asks for the transcript to be written, the session changes no file and comes to no outcome.

* `Session.GoesOn`: from one session to a later one.
* `Session.goesOn_handle`, `Session.goesOn_attend`: the events.
-/

namespace BringUp

namespace Session

/-- The trace of a world, and the link of a session in it. -/
def contact (w : World) (s : Session) : Contact := ⟨w.trace, s.link⟩

/-- From a session to a later one: its link is at the end of the wire still, it has changed no file,
and it has come to no outcome. -/
structure GoesOn (setup : Setup) (w : World) (s : Session) (after : Session × World) : Prop where
  /-- The link is at the end of the wire. -/
  proceeds : (s.contact w).Proceeds setup (after.1.contact after.2)
  /-- No file has changed. -/
  files : after.2.files = w.files
  /-- There is no other outcome. -/
  outcome : after.1.outcome = s.outcome

section

variable (setup : Setup) (w : World) (s : Session)

namespace GoesOn

theorem refl : GoesOn setup w s (s, w) := ⟨.refl _, rfl, rfl⟩

variable {setup w s}

theorem trans {s' : Session} {w' : World} {after : Session × World}
    (h : GoesOn setup w s (s', w')) (h' : GoesOn setup w' s' after) : GoesOn setup w s after :=
  ⟨h.proceeds.trans h'.proceeds, h'.files.trans h.files, h'.outcome.trans h.outcome⟩

/-- Only the link and the outcome of the sessions matter. -/
theorem congr {s₀ s' s₁ : Session} {w' : World} (h : GoesOn setup w s (s', w'))
    (hlink : s₀.link = s.link) (houtcome : s₀.outcome = s.outcome) (hlink' : s₁.link = s'.link)
    (houtcome' : s₁.outcome = s'.outcome) : GoesOn setup w s₀ (s₁, w') where
  proceeds := by
    rw [contact, contact, hlink, hlink']
    exact h.proceeds
  files := h.files
  outcome := by rw [houtcome', houtcome, ← h.outcome]

/-- A silent effect is recorded. -/
theorem record (effect : Effect) (heffect : effect.IsSilent) :
    GoesOn setup w s (s, w.record effect) :=
  ⟨.record w.trace s.link effect heffect, rfl, rfl⟩

/-- Lines are shown. -/
theorem showLines (lines : List String) : GoesOn setup w s (s, w.showLines lines) :=
  ⟨.showLines lines w.trace s.link, rfl, rfl⟩

end GoesOn

theorem goesOn_listPorts : GoesOn setup w s (s, listPorts setup w) := by
  have hlisted : GoesOn setup w s (s, w.record .listed) := .record .listed trivial
  unfold listPorts
  simp only
  split
  · exact hlisted.trans (.showLines _)
  · exact hlisted.trans (.showLines _)

theorem goesOn_load : GoesOn setup w s (load setup w s).2 := by
  have hcommands : GoesOn setup w s (s, w.record (.read setup.settings.commandList)) :=
    .record _ trivial
  unfold load
  simp only
  split
  · exact hcommands
  · have hsequence := hcommands.trans
      (.record (.read setup.settings.commandSequence) trivial)
    split
    · exact hsequence
    · exact hsequence.congr rfl rfl rfl rfl

theorem goesOn_moveTo (next : SessionState) : GoesOn setup w s (moveTo setup next w s).2 := by
  have hstay : GoesOn setup w s (s, w) := .refl setup w s
  unfold moveTo
  split
  · exact hstay
  · cases next with
    | init => exact (goesOn_listPorts setup w s).congr rfl rfl rfl rfl
    | running =>
      simp only
      split
      · exact hstay.congr rfl rfl rfl rfl
      · exact (goesOn_load setup w { s with state := .running }).congr rfl rfl rfl rfl
    | complete => exact hstay.congr rfl rfl rfl rfl
    | idle | awaitTransportSelect | awaitStart | awaitContinue =>
      exact hstay.congr rfl rfl rfl rfl

theorem goesOn_closeLink : GoesOn setup w s (closeLink w s) := by
  unfold closeLink
  split
  · exact .refl setup w s
  · have hclosed : GoesOn setup w s (s, w.record .closed) := .record .closed trivial
    exact ⟨hclosed.proceeds.trans (.drop _ _), rfl, rfl⟩

theorem goesOn_reset : GoesOn setup w s (reset setup w s).2 := by
  have hshown : GoesOn setup w s ({ s with nextTick := none }, w.showLines ["Port closed"]) :=
    (GoesOn.showLines ["Port closed"]).congr rfl rfl rfl rfl
  have hclosed := hshown.trans (goesOn_closeLink setup _ _)
  exact hclosed.trans (goesOn_moveTo setup _ _ .init)

theorem goesOn_openPort (port : String) : GoesOn setup w s (openPort setup port w s).2 := by
  unfold openPort
  simp only
  split
  · rename_i failure hconnect
    have hrefused : GoesOn setup w s (s, w.record (.opening port setup.settings.baud)) :=
      ⟨.refused hconnect, rfl, rfl⟩
    exact hrefused.trans (.showLines _)
  · rename_i connection hconnect
    have hopened : GoesOn setup w s ({ s with link := some (connection.link w.now) },
        w.record (.opening port setup.settings.baud)) := ⟨.opened hconnect, rfl, rfl⟩
    have hshown := (hopened.trans (.record (.opened connection.name) trivial)).trans
      (.showLines ["Opened " ++ connection.name, "Press any key to start the sequence"])
    exact hshown.trans (goesOn_moveTo setup _ _ .awaitStart)

theorem goesOn_runStep : GoesOn setup w s (runStep setup w s).2 := by
  unfold runStep
  simp only
  split
  · exact (GoesOn.refl setup w s).congr rfl rfl rfl rfl
  · exact (GoesOn.refl setup w s).congr rfl rfl rfl rfl
  · rename_i engine link hengine hlink
    have hran := engine.proceeds_runNext setup setup.tools
      { trace := w.trace, link, bindings := s.bindings }
    revert hran
    generalize engine.runNext setup.tools { trace := w.trace, link, bindings := s.bindings } = ran
    obtain ⟨advance, engine', rig⟩ := ran
    intro hran
    -- The clock and the variables do not matter, however the step ends.
    have hrig : GoesOn setup w s
        ({ s with engine := some engine', link := some rig.link, bindings := rig.bindings },
          { w with trace := rig.trace }) := by
      refine ⟨?_, rfl, rfl⟩
      rw [contact, hlink]
      exact hran
    have harmed (nextTick : Option Nat) : GoesOn setup w s
        ({ s with
            engine := some engine'
            link := some rig.link
            bindings := rig.bindings
            nextTick },
          { w with trace := rig.trace }) := hrig.congr rfl rfl rfl rfl
    cases advance with
    | next => exact harmed _
    | pause => exact (harmed _).trans (goesOn_moveTo setup _ _ .awaitContinue)
    | exhausted => exact (harmed _).trans (goesOn_moveTo setup _ _ .complete)
    | failed error => exact (harmed _).trans (goesOn_moveTo setup _ _ .complete)
    | transportClosed => exact (harmed none).trans (goesOn_reset setup _ _)

/-- An event that does not ask for the transcript to be written. -/
theorem goesOn_dispatch {event : SessionEvent} (hevent : s.state.react event ≠ some .flush) :
    GoesOn setup w s (dispatch setup event w s).2 := by
  unfold dispatch
  split
  · exact .refl setup w s
  · exact goesOn_reset setup w s
  · exact goesOn_openPort setup w s _
  · exact goesOn_moveTo setup w s _
  · exact goesOn_runStep setup w s
  · exact absurd ‹_› hevent

/-- An event that does not ask for the transcript to be written is handled. -/
theorem goesOn_handle {event : SessionEvent} (hevent : s.state.react event ≠ some .flush) :
    GoesOn setup w s (handle setup event w s) := by
  have hdispatch := goesOn_dispatch setup w s hevent
  unfold handle
  split
  · rename_i s' w' heq
    rw [heq] at hdispatch
    exact hdispatch
  · rename_i failure s' w' heq
    rw [heq] at hdispatch
    exact (hdispatch.trans (.showLines _)).trans (goesOn_moveTo setup _ _ .complete)

/-- A session that looks at its link goes on. -/
theorem goesOn_attend : GoesOn setup w s (attend setup w s) := by
  unfold attend
  split
  · exact .refl setup w s
  · rename_i link hlink
    have hpumped {isOpen : Bool} {replies : Reply.Stream}
        (hpump : link.replies.pump? w.now = some (isOpen, replies)) :
        GoesOn setup w s ({ s with link := some { link with replies } }, w) := by
      obtain ⟨taken, htaken⟩ := Reply.Stream.takes_pump hpump
      refine ⟨?_, rfl, rfl⟩
      rw [contact, hlink]
      exact .takesNow htaken replies.lines replies.armed
    split
    · exact .refl setup w s
    · exact hpumped ‹_›
    · -- A closed connection resets the session, in whatever state it is.
      rename_i hpump
      refine (hpumped hpump).trans (goesOn_handle setup _ _ ?_)
      rw [SessionState.react]
      nofun

end

end Session

end BringUp
