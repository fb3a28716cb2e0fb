import BringUp.Proofs.Session.Reach

/-!
# Sessions stay coherent

Whatever happens to a session, and in whatever order: as long as the session has no outcome, what it
holds fits its state. So a step that is due always finds the engine and the link that it needs, and
the only event that can fail is the line which starts the sequence, if a file cannot be loaded.

* `Session.Turn.sound`: no rule leads out of the coherent sessions.
* `Stage.sound_play`: nothing that can happen does.
* `Session.Coherent.dispatch_input`: the one event that can fail.
* `Stage.coherent_play`: both for every run.
-/

namespace BringUp

namespace Session

/-- A session between two occurrences is coherent, or it is over and its link is closed. -/
inductive Sound (s : Session) : Prop where
  /-- The session goes on. -/
  | goesOn : s.outcome = none → s.Coherent → Sound s
  /-- The session is over. -/
  | ended : s.outcome.isSome → s.link = none → Sound s

/-- The link of a session is quiet between two occurrences. -/
theorem Sound.quiet {s : Session} (hs : s.Sound) {link : Link} (hlink : s.link = some link) :
    link.IsQuiet := by
  cases hs with
  | goesOn _ hs => exact hs.quiet link hlink
  | ended _ hnone =>
    rw [hnone] at hlink
    cases hlink

/-- A session that goes on is coherent. -/
theorem Sound.coherent {s : Session} (hs : s.Sound) (houtcome : s.outcome = none) :
    s.Coherent := by
  cases hs with
  | goesOn _ hs => exact hs
  | ended hsome _ =>
    rw [houtcome] at hsome
    cases hsome

/-- A session that holds a link goes on. -/
theorem Sound.outcome_of_link {s : Session} (hs : s.Sound) {link : Link}
    (hlink : s.link = some link) : s.outcome = none := by
  cases hs with
  | goesOn houtcome _ => exact houtcome
  | ended _ hnone => cases hnone.symm.trans hlink

/-! ### Coherent sessions, one state after the other -/

/-- A session whose connection has ended has forgotten all that belonged to it. -/
theorem coherent_restarted (s : Session) : s.restarted.Coherent where
  started := by simp [restarted]
  selecting _ := ⟨rfl, rfl, rfl, rfl⟩
  opened := by simp [restarted]
  underway := by simp [restarted]
  complete := by simp [restarted]
  quiet := by simp [restarted]

/-- A session with a link and nothing else. -/
theorem Coherent.of_opened {s : Session} (hstate : s.state = .awaitStart) (hlink : s.link.isSome)
    (hquiet : ∀ l, s.link = some l → l.IsQuiet) (hengine : s.engine = none)
    (htick : s.nextTick = none) (hbindings : s.bindings = {}) : s.Coherent where
  started := by simp [hstate]
  selecting := by simp [hstate]
  opened _ := ⟨hlink, hengine, htick, hbindings⟩
  underway := by simp [hstate]
  complete := by simp [hstate]
  quiet := hquiet

/-- A session in the middle of a sequence. -/
theorem Coherent.of_underway {s : Session} {engine : Engine}
    (hstate : s.state = .running ∨ s.state = .awaitContinue) (hlink : s.link.isSome)
    (hquiet : ∀ l, s.link = some l → l.IsQuiet) (hengine : s.engine = some engine)
    (hcursor : engine.cursor ≤ engine.size) (htick : s.nextTick.isSome) : s.Coherent where
  started := by rcases hstate with h | h <;> simp [h]
  selecting := by rcases hstate with h | h <;> simp [h]
  opened := by rcases hstate with h | h <;> simp [h]
  underway _ := ⟨hlink, htick, engine, hengine, hcursor⟩
  complete := by rcases hstate with h | h <;> simp [h]
  quiet := hquiet

/-- A session that is about to write the transcript. -/
theorem Coherent.of_complete {s : Session} (hstate : s.state = .complete) (hlink : s.link.isSome)
    (hquiet : ∀ l, s.link = some l → l.IsQuiet) (htick : s.nextTick.isSome) : s.Coherent where
  started := by simp [hstate]
  selecting := by simp [hstate]
  opened := by simp [hstate]
  underway := by simp [hstate]
  complete _ := ⟨hlink, htick⟩
  quiet := hquiet

/-- A session stays coherent when its stream changes and the clock is armed anew. -/
theorem Coherent.rest {s : Session} (hs : s.Coherent) {link : Option Link} {nextTick : Option Nat}
    (hlink : link.isSome = s.link.isSome) (htick : nextTick.isSome = s.nextTick.isSome)
    (hquiet : ∀ l, link = some l → l.IsQuiet) :
    ({ s with link, nextTick } : Session).Coherent where
  started := hs.started
  selecting hstate := by
    obtain ⟨hnone, hengine, htickNone, hbindings⟩ := hs.selecting hstate
    rw [hnone] at hlink
    rw [htickNone] at htick
    exact ⟨by simpa using hlink, hengine, by simpa using htick, hbindings⟩
  opened hstate := by
    obtain ⟨hsome, hengine, htickNone, hbindings⟩ := hs.opened hstate
    rw [htickNone] at htick
    exact ⟨hlink.trans hsome, hengine, by simpa using htick, hbindings⟩
  underway hstate := by
    obtain ⟨hsome, htickSome, hengine⟩ := hs.underway hstate
    exact ⟨hlink.trans hsome, htick.trans htickSome, hengine⟩
  complete hstate := by
    obtain ⟨hsome, htickSome⟩ := hs.complete hstate
    exact ⟨hlink.trans hsome, htick.trans htickSome⟩
  quiet := hquiet

/-- No rule leads out of the coherent sessions. -/
theorem Turn.sound {setup : Setup} {o : Occurrence} {s s' : Session} {new : List Effect}
    (h : Turn setup o s new s') (houtcome : s.outcome = none) (hs : s.Coherent) : s'.Sound := by
  have hnew {link : Link} (hquiet : link.IsQuiet) : ∀ l, some link = some l → l.IsQuiet :=
    fun _ hl => Option.some.inj hl ▸ hquiet
  cases h with
  | rest hlink htick hquiet => exact .goesOn houtcome (hs.rest hlink htick hquiet)
  | refuse port line hstate => exact .goesOn houtcome hs
  | connect port line line' hstate hquiet =>
    obtain ⟨-, hengine, htick, hbindings⟩ := hs.selecting hstate
    exact .goesOn houtcome (.of_opened rfl rfl (hnew hquiet) hengine htick hbindings)
  | load nextTick hstate hcursor =>
    obtain ⟨hlink, -, -, -⟩ := hs.opened hstate
    refine .goesOn houtcome (.of_underway (.inl rfl) hlink hs.quiet rfl ?_ rfl)
    rw [hcursor]
    exact Nat.zero_le _
  | loadFail line nextTick hstate hpaths =>
    exact .goesOn houtcome (.of_complete rfl (hs.opened hstate).1 hs.quiet rfl)
  | resume hstate =>
    -- The clock was armed all along, so the sequence goes on where it was.
    obtain ⟨hlink, htick, engine, hengine, hcursor⟩ := hs.underway (.inr hstate)
    exact .goesOn houtcome (.of_underway (.inl rfl) hlink hs.quiet hengine hcursor htick)
  | step bindings nextTick hstate hengine hcursor hnext hsteps hquiet =>
    exact .goesOn houtcome (.of_underway hnext rfl (hnew hquiet) rfl hcursor rfl)
  | fail nextTick hstate hengine hcursor hsteps hquiet =>
    exact .goesOn houtcome (.of_complete rfl rfl (hnew hquiet) rfl)
  | exhaust nextTick hstate hengine hcursor =>
    exact .goesOn houtcome (.of_complete rfl (hs.underway (.inl hstate)).1 hs.quiet rfl)
  | lose lines hstate hengine hcursor hsteps => exact .goesOn houtcome s.coherent_restarted
  | close lines hlink => exact .goesOn houtcome s.coherent_restarted
  -- The only rule that sets an outcome closes the link.
  | finish path lines outcome hstate => exact .ended rfl rfl

/-! ### What can fail -/

/-- A failure to load a file says so. -/
theorem LoadFails.message_eq {setup : Setup} {w : World} {failure : Failure}
    (h : LoadFails setup w failure) : ∃ rest, failure.message = "Failed to " ++ rest := by
  have hload {what path : String} (h : w.files.load what path = .error failure) :
      ∃ rest, failure.message = "Failed to " ++ rest := by
    unfold FileTree.load at h
    split at h
    · cases h
    · cases h
      exact ⟨"read " ++ what ++ ": " ++ path, by simp [← String.append_assoc]⟩
  rcases h with h | h
  · unfold FileTree.loadCommandList at h
    cases hread : w.files.load "command list" setup.settings.commandList with
    | ok text =>
      rw [hread] at h
      cases h
    | error failure' =>
      rw [hread] at h
      cases h
      exact hload hread
  · unfold FileTree.loadSequence at h
    split at h
    · rename_i failure' hread
      cases h
      exact hload hread
    · rename_i content _
      cases hparse : Script.readSequence content with
      | ok entries =>
        rw [hparse] at h
        cases h
      | error failure' =>
        rw [hparse] at h
        cases h
        exact ⟨"parse " ++ setup.settings.commandSequence,
          by simp [Failure.context, ← String.append_assoc]⟩

/-- An event that cannot be handled completes the run. -/
theorem state_handle_of_failure {setup : Setup} {event : SessionEvent} {w : World} {s : Session}
    {failure : Failure} (h : (dispatch setup event w s).1 = some failure) :
    (handle setup event w s).1.state = .complete := by
  unfold handle
  generalize dispatch setup event w s = result at h
  obtain ⟨failure', s', w'⟩ := result
  obtain rfl : failure' = some failure := h
  by_cases hcomplete : s'.state = .complete
  · simp [moveTo, hcomplete]
  · simp [moveTo, hcomplete]

/-- No tick fails. -/
theorem Coherent.dispatch_tick {s : Session} (hs : s.Coherent) (setup : Setup) (w : World)
    (nextTick : Option Nat) : (dispatch setup .tick w { s with nextTick }).1 = none := by
  cases hstate : s.state with
  | idle => exact absurd hstate hs.started.1
  | init => exact absurd hstate hs.started.2
  | awaitTransportSelect => rfl
  | awaitStart => rfl
  | awaitContinue => rfl
  | running =>
    have hnone := (turns_runStep hs hstate setup w nextTick).1
    rw [hstate] at hnone
    exact hnone
  | complete => rfl

/-- No end of the connection fails. -/
theorem Coherent.dispatch_closed {s : Session} (hs : s.Coherent) (setup : Setup) (w : World)
    (link : Link) : (dispatch setup .transportClosed w { s with link := some link }).1 = none := by
  obtain ⟨lines, w', hreset, -⟩ :=
    reset_eq (s := { s with link := some link }) hs.started.2 rfl setup w
  rw [dispatch, SessionState.react, hreset]

/-- The only line that fails is the one which starts the sequence, if a file cannot be loaded. -/
theorem Coherent.dispatch_input {s : Session} (hs : s.Coherent) {setup : Setup} {w : World}
    {text : String} {failure : Failure}
    (h : (dispatch setup (.input text) w s).1 = some failure) :
    s.state = .awaitStart ∧ LoadFails setup w failure := by
  have hignored (hreact : s.state.react (.input text) = none) :
      (dispatch setup (.input text) w s).1 = none := by
    rw [dispatch, hreact]
  cases hstate : s.state with
  | idle => exact absurd hstate hs.started.1
  | init => exact absurd hstate hs.started.2
  | awaitTransportSelect =>
    rw [dispatch_select hstate, (turns_openPort hstate setup text (Text.trim text) w).1] at h
    cases h
  | awaitStart =>
    rw [dispatch_start hs hstate] at h
    rcases load_cases setup w { s with state := .running } with
      ⟨failure', paths, w', hload, -, -, hfails⟩ | ⟨engine, w', hload, -, -⟩
    · rw [hload] at h
      cases h
      exact ⟨rfl, hfails⟩
    · rw [hload] at h
      cases h
  | awaitContinue =>
    rw [dispatch_continue hs hstate] at h
    cases h
  | running =>
    rw [hignored (by rw [hstate]; rfl)] at h
    cases h
  | complete =>
    rw [hignored (by rw [hstate]; rfl)] at h
    cases h

end Session

namespace Stage

/-- What the device is about to send disturbs no session. -/
theorem turns_withInbox {s : Stage} (hs : s.session.Sound) (setup : Setup)
    (change : Reply.Inbox → Reply.Inbox) :
    s.session.Turns setup .arrival s.world
      ((s.withInbox change).session, (s.withInbox change).world) := by
  refine ⟨[], by simp [withInbox], .rest Option.isSome_map rfl ?_⟩
  intro l hl
  obtain ⟨link, hlink, rfl⟩ := Option.map_eq_some_iff.1 hl
  exact ⟨(hs.quiet hlink).armed, (hs.quiet hlink).lines⟩

/-- A session that is over is not woken any more. -/
theorem not_allows_of_outcome {s : Stage} (houtcome : s.session.outcome.isSome) (o : Occurrence) :
    ¬ s.Allows o := by
  obtain ⟨outcome, houtcome⟩ := Option.isSome_iff_exists.1 houtcome
  intro hallows
  have hending : s.ending? = some outcome := by simp [ending?, houtcome]
  simpa [hending] using hallows.1

/-- A session that can be woken goes on. -/
theorem outcome_of_allows {s : Stage} {o : Occurrence} (hallows : s.Allows o) :
    s.session.outcome = none :=
  Option.not_isSome_iff_eq_none.1 fun hsome => not_allows_of_outcome hsome o hallows

/-- Nothing happens to a session but what the rules say, and the rules for a line of the operator
apply only if one is typed. -/
theorem turns_happen {s : Stage} (hs : s.session.Sound) (setup : Setup) (h : Happening) :
    ∃ o, (∀ text, o = .line text → h = .wake (.line text)) ∧
      s.session.Turns setup o s.world ((s.happen setup h).session, (s.happen setup h).world) := by
  have hstay : s.session.Turns setup .arrival s.world (s.session, s.world) :=
    ⟨[], by simp, .rest rfl rfl fun _ => hs.quiet⟩
  cases h with
  | wait time => exact ⟨.arrival, nofun, hstay⟩
  | send delay a => exact ⟨.arrival, nofun, turns_withInbox hs setup _⟩
  | hangUp => exact ⟨.arrival, nofun, turns_withInbox hs setup _⟩
  | change files => exact ⟨.arrival, nofun, hstay⟩
  | wake o =>
    rw [happen]
    split
    · rename_i hallows
      cases hs with
      | goesOn houtcome hs =>
        refine ⟨o, fun text h => h ▸ rfl, turn_perform hs ?_ setup⟩
        rintro rfl
        exact hallows.2
      | ended houtcome _ => exact absurd hallows (not_allows_of_outcome houtcome o)
    · exact ⟨.arrival, nofun, hstay⟩

/-- Nothing that happens leads out of the sound sessions. -/
theorem sound_happen {s : Stage} (hs : s.session.Sound) (setup : Setup) (h : Happening) :
    (s.happen setup h).session.Sound := by
  cases hs with
  | goesOn houtcome hs =>
    obtain ⟨o, -, new, -, hturn⟩ := turns_happen (.goesOn houtcome hs) setup h
    exact hturn.sound houtcome hs
  | ended houtcome hlink =>
    -- There is no link any more, and nothing wakes the session.
    cases h with
    | wait time => exact .ended houtcome hlink
    | send delay a => exact .ended houtcome (by simp [happen, withInbox, hlink])
    | hangUp => exact .ended houtcome (by simp [happen, withInbox, hlink])
    | change files => exact .ended houtcome hlink
    | wake o =>
      rw [happen, if_neg (not_allows_of_outcome houtcome o)]
      exact .ended houtcome hlink

/-- A session is sound, whatever has happened. -/
theorem sound_play (setup : Setup) (files : FileTree) (operator : Operator)
    (happenings : List Happening) :
    ((started setup files operator).play setup happenings).session.Sound :=
  keep_play (P := fun s => s.session.Sound) (fun _ h _ hs => sound_happen hs setup h)
    (.goesOn rfl (Session.coherent_restarted {}))

open Session in
/-- Whatever happens to a session, in whatever order: while it has no outcome it is coherent, and
the only event that can fail is the line which starts the sequence. It fails when a file cannot be
loaded, never because an engine or a link is missing, and then completes the run. -/
theorem coherent_play (setup : Setup) (files : FileTree) (operator : Operator)
    (happenings : List Happening) {s : Stage}
    (hs : s = (started setup files operator).play setup happenings)
    (houtcome : s.session.outcome = none) :
    s.session.Coherent ∧
      (∀ text failure, (dispatch setup (.input text) s.world s.session).1 = some failure →
        s.session.state = .awaitStart ∧ LoadFails setup s.world failure ∧
          failure.message ≠ "No sequence loaded" ∧
          failure.message ≠ "Sequence is running without a transport" ∧
          (handle setup (.input text) s.world s.session).1.state = .complete) ∧
      (∀ nextTick, (dispatch setup .tick s.world { s.session with nextTick }).1 = none) ∧
      ∀ link, (dispatch setup .transportClosed s.world
        { s.session with link := some link }).1 = none := by
  have hsound : s.session.Sound := hs ▸ sound_play setup files operator happenings
  -- A session that is over has an outcome.
  cases hsound with
  | ended hsome _ =>
    rw [houtcome] at hsome
    cases hsome
  | goesOn _ hcoherent =>
    refine ⟨hcoherent, fun text failure h => ?_, hcoherent.dispatch_tick setup s.world,
      hcoherent.dispatch_closed setup s.world⟩
    obtain ⟨hstate, hfails⟩ := hcoherent.dispatch_input h
    obtain ⟨rest, hmessage⟩ := hfails.message_eq
    -- The messages about missing parts start with other letters.
    have hne {message : String} (hhead : message.toList.head? ≠ some 'F') :
        failure.message ≠ message := by
      rintro rfl
      exact hhead (by simp [hmessage])
    exact ⟨hstate, hfails, hne (by decide), hne (by decide), state_handle_of_failure h⟩

/-- A session that is held by a pause is coherent, and no tick fails there. -/
theorem coherent_play_held :
    Sample.held.session.outcome = none ∧ Sample.held.session.state = .awaitContinue ∧
      Sample.held.session.Coherent ∧
      ∀ nextTick, (Session.dispatch Sample.setup .tick Sample.held.world
        { Sample.held.session with nextTick }).1 = none := by
  have houtcome : Sample.held.session.outcome = none := Option.isNone_iff_eq_none.1 (by decide)
  obtain ⟨hcoherent, -, htick, -⟩ :=
    coherent_play Sample.setup Sample.files {} Sample.toPause rfl houtcome
  exact ⟨houtcome, by decide, hcoherent, htick⟩

end Stage

end BringUp
