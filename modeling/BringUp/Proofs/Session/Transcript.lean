import BringUp.Proofs.Files.Contents
import BringUp.Proofs.Session.Order
import BringUp.Proofs.Session.Progress

/-!
# The transcript of a run

A run writes a transcript at most once, at a tick when nothing else is left to do, and it is over
then. The file holds the text of what came over the wire since the port was opened. A run that ends
in another way has written nothing.

* `Stage.wire`: what has come over the wire, whatever has happened.
* `Stage.Unsaved`: what holds of a run before it writes the transcript.
* `Stage.Flushes`: what the tick does that writes it.
* `Stage.transcript_saved`: every run writes one transcript or none.
-/

namespace BringUp

namespace Session

/-- The octets that were written are those of the transcript. -/
theorem readBytes_of_writeTranscript {path text : String} {files files' : FileTree}
    (h : writeTranscript path text files = (none, files')) :
    files'.readBytes path = .ok (Text.Utf8.encode text) := by
  unfold writeTranscript at h
  simp only at h
  split at h
  · cases h
  · split at h
    · cases h
    · rename_i hwrite
      cases h
      exact FileTree.readBytes_of_write hwrite

/-- If a file cannot be loaded, loading fails. -/
theorem load_of_loadFails {setup : Setup} {w : World} {failure : Failure}
    (h : LoadFails setup w failure) (s : Session) :
    ∃ failure', (load setup w s).1 = some failure' := by
  unfold load
  simp only
  split
  · exact ⟨_, rfl⟩
  · rename_i commands hcommands
    split
    · exact ⟨_, rfl⟩
    · rename_i entries hentries
      have hcommands' : w.files.loadCommandList setup.settings.commandList = .ok commands :=
        hcommands
      have hentries' : w.files.loadSequence setup.settings.commandSequence = .ok entries := hentries
      rcases h with h | h
      · rw [h] at hcommands'
        cases hcommands'
      · rw [h] at hentries'
        cases hentries'

/-- Only a tick asks for the transcript to be written, when nothing else is left to do. -/
theorem react_eq_flush_iff {state : SessionState} {event : SessionEvent} :
    state.react event = some .flush ↔ state = .complete ∧ event = .tick := by
  cases state <;> cases event <;> simp [SessionState.react]

section

variable {setup : Setup} {w : World} {s : Session} {link : Link} {files : FileTree}

/-- The transcript is written, the link is closed, and the operator is told. -/
theorem flush_of_written (hlink : s.link = some link)
    (h : writeTranscript (setup.settings.transcriptPath setup.today)
      (link.replies.drain w.now).transcript w.files = (none, files)) (nextTick : Option Nat) :
    flush setup w { s with nextTick } =
      ({ s with
          link := none
          nextTick := none
          outcome := some (.ok (setup.settings.transcriptPath setup.today)) },
        { trace := ((w.trace.record (.saving (setup.settings.transcriptPath setup.today))).record
            .closed).record (.shown "Sequence Complete"),
          files }) := by
  unfold flush
  simp only [transcript, hlink, h, closeLink]
  rfl

/-- The transcript cannot be written, and the link is closed all the same. -/
theorem flush_of_failure {failure : Failure} (hlink : s.link = some link)
    (h : writeTranscript (setup.settings.transcriptPath setup.today)
      (link.replies.drain w.now).transcript w.files = (some failure, files))
    (nextTick : Option Nat) :
    flush setup w { s with nextTick } =
      ({ s with link := none, nextTick := none, outcome := some (.error failure) },
        { trace := (w.trace.record (.saving (setup.settings.transcriptPath setup.today))).record
            .closed,
          files }) := by
  unfold flush
  simp only [transcript, hlink, h, closeLink]
  rfl

end

end Session

namespace Stage

/-- The paths of the transcripts that were written, or that the attempt was made to write. -/
def saved (s : Stage) : List String := s.world.trace.saved

/-- What something that happens leads to on the wire. -/
def listen (setup : Setup) (s : Stage) (wire : Wire) (h : Happening) : Wire :=
  match h with
  | .send delay a => { wire with sent := wire.sent.post s.world.now delay a }
  | .hangUp => { wire with sent := wire.sent.hangUp }
  | .wait _ | .change _ => wire
  | .wake _ => wire.between setup s.world.trace (s.happen setup h).world.trace

/-- What has come over the wire when things have happened. -/
def wireFrom (setup : Setup) : List Happening → Stage → Wire → Wire
  | [], _, wire => wire
  | h :: happenings, s, wire =>
    wireFrom setup happenings (s.happen setup h) (s.listen setup wire h)

end Stage

/-- The files after something has happened, if the session leaves them alone. -/
def Happening.files (files : FileTree) : Happening → FileTree
  | .change files => files
  | .wait _ | .send _ _ | .hangUp | .wake _ => files

/-- The files after things have happened, if the session leaves them alone. -/
def filesAfter (files : FileTree) (happenings : List Happening) : FileTree :=
  happenings.foldl Happening.files files

namespace Stage

/-- A run before it writes the transcript: nothing has been written, and the link is at the end of
the wire. -/
structure Unsaved (setup : Setup) (wire : Wire) (files : FileTree) (s : Stage) : Prop where
  /-- The session is coherent. -/
  coherent : s.session.Coherent
  /-- It has no outcome. -/
  outcome : s.session.outcome = none
  /-- No transcript has been written. -/
  saved : s.saved = []
  /-- The session has changed no file. -/
  files : s.world.files = files
  /-- The link is at the end of the wire. -/
  fits : (s.session.contact s.world).Fits wire

/-- What writing a transcript into the file for it leads to: a failure, unless it succeeds, and the
files afterwards. -/
def written (setup : Setup) (text : String) (s : Stage) : Option Failure × FileTree :=
  Session.writeTranscript (setup.settings.transcriptPath setup.today) text s.world.files

/-- How a tick ends a run: the transcript is written, the link is closed, and the run returns what
the write has led to. -/
structure Flushes (setup : Setup) (text : String) (s s' : Stage) : Prop where
  /-- The files are those that the write leaves. -/
  files : s'.world.files = (s.written setup text).2
  /-- No link is left. -/
  link : s'.session.link = none
  /-- The run is over. -/
  ended : ∃ outcome, s'.session.outcome = some outcome ∧ s'.ending? = some outcome
  /-- The run returns a path exactly when the write succeeds. -/
  ok_iff : (∃ path, s'.ending? = some (.ok path)) ↔ (s.written setup text).1 = none
  /-- The path is that of the settings, the file holds the text, and the operator is told. -/
  ok : ∀ path, s'.ending? = some (.ok path) →
    path = setup.settings.transcriptPath setup.today ∧
    s'.world.files.readBytes path = .ok (Text.Utf8.encode text) ∧
    s'.world.trace.effects =
      s.world.trace.effects ++ [.saving path, .closed, .shown "Sequence Complete"]
  /-- A failure is returned; the link has been closed all the same, and the operator is not told
  that the sequence is complete. -/
  error : ∀ failure, (s.written setup text).1 = some failure →
    s'.ending? = some (.error failure) ∧
    s'.world.trace.effects =
      s.world.trace.effects ++ [.saving (setup.settings.transcriptPath setup.today), .closed]

/-- A tick that finds nothing else left to do writes what the stream of the link has taken, drained
up to then. -/
theorem flushes_tick {s : Stage} {link : Link} (hstate : s.session.state = .complete)
    (hlink : s.session.link = some link) (setup : Setup) :
    s.Flushes setup (link.replies.drain s.world.now).transcript (s.perform setup .tick) := by
  -- With the result of the write laid open, the stage after the tick can be read off.
  rcases hwritten : s.written setup (link.replies.drain s.world.now).transcript with
    ⟨failure, files⟩
  cases failure with
  | some failure =>
    rw [perform, Session.tick_complete hstate, Session.flush_of_failure hlink hwritten]
    exact
      { files := by rw [hwritten]
        link := rfl
        ended := ⟨_, rfl, rfl⟩
        ok_iff := by simp [hwritten, ending?]
        ok := by simp [ending?]
        error := by simp [hwritten, ending?] }
  | none =>
    rw [perform, Session.tick_complete hstate, Session.flush_of_written hlink hwritten]
    have hread := Session.readBytes_of_writeTranscript hwritten
    exact
      { files := by rw [hwritten]
        link := rfl
        ended := ⟨_, rfl, rfl⟩
        ok_iff := by simp [hwritten, ending?]
        ok := by simp [ending?, hread]
        error := by simp [hwritten] }

/-! ### Before the transcript is written -/

section

variable {setup : Setup} {wire : Wire} {files : FileTree} {s : Stage}

/-- A session that goes on has not written the transcript. -/
theorem Unsaved.goesOn (hs : s.Unsaved setup wire files) {s' : Stage}
    (h : Session.GoesOn setup s.world s.session (s'.session, s'.world))
    (hsound : s'.session.Sound) :
    s'.Unsaved setup (wire.between setup s.world.trace s'.world.trace) files := by
  have houtcome : s'.session.outcome = none := h.outcome.trans hs.outcome
  exact ⟨hsound.coherent houtcome, houtcome, h.proceeds.saved.trans hs.saved,
    h.files.trans hs.files, h.proceeds.fits wire hs.fits⟩

/-- A run that has not written the transcript goes on, unless the clock ticks when nothing else is
left to do. -/
theorem goesOn_perform {o : Occurrence} (ho : o = .tick → s.session.state ≠ .complete)
    (setup : Setup) :
    Session.GoesOn setup s.world s.session
      ((s.perform setup o).session, (s.perform setup o).world) := by
  cases o with
  | line text =>
    refine Session.goesOn_handle setup s.world s.session fun hflush => ?_
    cases (Session.react_eq_flush_iff.1 hflush).2
  | operatorLeaves => exact .refl setup s.world s.session
  | tick =>
    have hreact : s.session.state.react .tick ≠ some .flush := fun hflush =>
      ho rfl (Session.react_eq_flush_iff.1 hflush).1
    exact (Session.goesOn_handle setup s.world
      { s.session with nextTick := some (s.world.now + setup.settings.stepInterval) }
      hreact).congr rfl rfl rfl rfl
  | arrival => exact Session.goesOn_attend setup s.world s.session

/-- What the device sends by itself comes over the wire, and into the inbox of the link. -/
theorem Unsaved.withInbox (hs : s.Unsaved setup wire files) {change : Reply.Inbox → Reply.Inbox}
    (hfollows : ∀ stream taken, Reply.Stream.Follows wire.sent taken s.world.now stream →
      Reply.Stream.Follows (change wire.sent) taken s.world.now
        { stream with inbox := change stream.inbox })
    (hsound : (s.withInbox change).session.Sound) :
    (s.withInbox change).Unsaved setup { wire with sent := change wire.sent } files := by
  refine ⟨hsound.coherent hs.outcome, hs.outcome, hs.saved, hs.files, fun link hlink => ?_⟩
  obtain ⟨link, hbefore, rfl⟩ := Option.map_eq_some_iff.1 hlink
  obtain ⟨hdevice, taken, htaken⟩ := hs.fits link hbefore
  exact ⟨hdevice, taken, hfollows _ _ htaken⟩

/-- Whatever happens, a run that has not written the transcript goes on, unless the clock ticks when
nothing else is left to do. -/
theorem Unsaved.happen (hs : s.Unsaved setup wire files) {h : Happening}
    (hh : ¬ (h = .wake .tick ∧ s.Allows .tick ∧ s.session.state = .complete)) :
    (s.happen setup h).Unsaved setup (s.listen setup wire h) (h.files files) := by
  have hsound := sound_happen (.goesOn hs.outcome hs.coherent) setup h
  cases h with
  | wait time =>
    refine ⟨hs.coherent, hs.outcome, hs.saved, hs.files, fun link hlink => ?_⟩
    obtain ⟨hdevice, taken, htaken⟩ := hs.fits link hlink
    exact ⟨hdevice, taken, htaken.mono (Nat.le_max_left _ time)⟩
  | send delay a => exact hs.withInbox (fun _ _ h => h.post delay a) hsound
  | hangUp => exact hs.withInbox (fun _ _ h => h.hangUp) hsound
  | change files' => exact ⟨hs.coherent, hs.outcome, hs.saved, rfl, hs.fits⟩
  | wake o =>
    by_cases hallows : s.Allows o
    · have hgoesOn := goesOn_perform (s := s) (o := o) (by
        rintro rfl hstate
        exact hh ⟨rfl, hallows, hstate⟩) setup
      have hperform : s.happen setup (.wake o) = s.perform setup o := if_pos hallows
      rw [listen, hperform]
      rw [hperform] at hsound
      exact hs.goesOn hgoesOn hsound
    · have hstay : s.happen setup (.wake o) = s := if_neg hallows
      rw [listen, hstay, wire.between_of_log_eq setup rfl]
      exact hs

/-- When nothing else is left to do, the clock is armed, and its tick writes all that came over the
wire. -/
theorem Unsaved.flushes (hs : s.Unsaved setup wire files)
    (hstate : s.session.state = .complete) :
    s.Allows .tick ∧
      s.Flushes setup (Reply.textOf (wire.sent.heard s.world.now))
        (s.happen setup (.wake .tick)) := by
  obtain ⟨hlink, htick⟩ := hs.coherent.complete hstate
  obtain ⟨link, hlink⟩ := Option.isSome_iff_exists.1 hlink
  have hallows : s.Allows .tick :=
    ⟨by simp [ending?, hs.outcome, hstate, SessionState.awaitsInput], htick⟩
  obtain ⟨-, taken, htaken⟩ := hs.fits link hlink
  have htext : (link.replies.drain s.world.now).transcript =
      Reply.textOf (wire.sent.heard s.world.now) := htaken.transcript_drain (Nat.le_refl _)
  rw [Stage.happen, if_pos hallows, ← htext]
  exact ⟨hallows, flushes_tick hstate hlink setup⟩

/-! ### After the transcript is written -/

/-- Nothing happens to a session that is over. -/
theorem happen_of_ended (houtcome : s.session.outcome.isSome) (hlink : s.session.link = none)
    (setup : Setup) (h : Happening) :
    (s.happen setup h).session = s.session ∧ (s.happen setup h).saved = s.saved ∧
      (s.happen setup h).world.files = h.files s.world.files := by
  have hinbox (change : Reply.Inbox → Reply.Inbox) : s.withInbox change = s := by
    rw [withInbox, hlink, Option.map_none, ← hlink]
  cases h with
  | wait time => exact ⟨rfl, rfl, rfl⟩
  | send delay a =>
    rw [happen, hinbox]
    exact ⟨rfl, rfl, rfl⟩
  | hangUp =>
    rw [happen, hinbox]
    exact ⟨rfl, rfl, rfl⟩
  | change files => exact ⟨rfl, rfl, rfl⟩
  | wake o =>
    rw [happen, if_neg (not_allows_of_outcome houtcome o)]
    exact ⟨rfl, rfl, rfl⟩

/-- However much happens, nothing happens to a session that is over. -/
theorem play_of_ended (houtcome : s.session.outcome.isSome) (hlink : s.session.link = none)
    (setup : Setup) (later : List Happening) :
    (s.play setup later).session = s.session ∧ (s.play setup later).saved = s.saved ∧
      (s.play setup later).world.files = filesAfter s.world.files later := by
  induction later generalizing s with
  | nil => exact ⟨rfl, rfl, rfl⟩
  | cons h later ih =>
    obtain ⟨hsession, hsaved, hfiles⟩ := happen_of_ended houtcome hlink setup h
    obtain ⟨hsession', hsaved', hfiles'⟩ := ih (s := s.happen setup h) (by rwa [hsession])
      (by rwa [hsession])
    rw [play_cons]
    refine ⟨hsession'.trans hsession, hsaved'.trans hsaved, ?_⟩
    rw [hfiles', hfiles]
    rfl

/-- Either a run has not written the transcript, or there is the tick that wrote it. -/
theorem Unsaved.play (hs : s.Unsaved setup wire files) (happenings : List Happening) :
    (s.play setup happenings).Unsaved setup (wireFrom setup happenings s wire)
        (filesAfter files happenings) ∨
      ∃ before later, happenings = before ++ .wake .tick :: later ∧
        (s.play setup before).Unsaved setup (wireFrom setup before s wire)
          (filesAfter files before) ∧
        (s.play setup before).session.state = .complete := by
  induction happenings generalizing s wire files with
  | nil => exact .inl hs
  | cons h happenings ih =>
    by_cases hh : h = .wake .tick ∧ s.Allows .tick ∧ s.session.state = .complete
    · obtain ⟨rfl, -, hstate⟩ := hh
      exact .inr ⟨[], happenings, rfl, hs, hstate⟩
    · rcases ih (hs.happen hh) with hunsaved | ⟨before, later, rfl, hunsaved, hstate⟩
      · exact .inl hunsaved
      · exact .inr ⟨h :: before, later, rfl, hunsaved, hstate⟩

end

/-- Writing the transcript is recorded once. -/
theorem Flushes.saved_eq {setup : Setup} {text : String} {s s' : Stage}
    (h : s.Flushes setup text s') :
    s'.saved = s.saved ++ [setup.settings.transcriptPath setup.today] := by
  have heffects : ∃ more : List Effect, more.filterMap Effect.saved? = [] ∧
      s'.world.trace.effects = s.world.trace.effects ++
        .saving (setup.settings.transcriptPath setup.today) :: more := by
    cases hwritten : (s.written setup text).1 with
    | none =>
      obtain ⟨path, hpath⟩ := h.ok_iff.2 hwritten
      obtain ⟨rfl, -, heffects⟩ := h.ok path hpath
      exact ⟨_, rfl, heffects⟩
    | some failure => exact ⟨_, rfl, (h.error failure hwritten).2⟩
  obtain ⟨more, hmore, heffects⟩ := heffects
  rw [saved, Trace.saved, heffects, List.filterMap_append]
  simp [saved, Trace.saved, Effect.saved?, hmore]

/-! ### Runs -/

/-- Something happens after which nothing is left to do but to write the transcript. -/
inductive Completes (setup : Setup) (s : Stage) : Happening → Prop where
  /-- The operator starts the sequence, and it cannot be loaded. -/
  | load {text : String} {failure : Failure} : s.Allows (.line text) →
      s.session.state = .awaitStart → Session.LoadFails setup s.world failure →
      Completes setup s (.wake (.line text))
  /-- A step fails. -/
  | fail {error : StepError} : s.session.advance? setup s.world = some (.failed error) →
      Completes setup s (.wake .tick)
  /-- The sequence is over. -/
  | exhaust : s.session.advance? setup s.world = some .exhausted → Completes setup s (.wake .tick)

/-- The session then waits for the tick that writes the transcript. -/
theorem Completes.state_eq {setup : Setup} {s : Stage} {h : Happening} (hh : s.Completes setup h)
    (houtcome : s.session.outcome = none) (hs : s.session.Coherent) :
    (s.happen setup h).session.state = .complete := by
  cases hh with
  | @load text _ hallows hstate hload =>
    obtain ⟨failure, hfailure⟩ :=
      Session.load_of_loadFails hload { s.session with state := .running }
    have hdispatch : (Session.dispatch setup (.input text) s.world s.session).1 = some failure := by
      rw [Session.dispatch_start hs hstate, hfailure]
    rw [happen, if_pos hallows]
    exact Session.state_handle_of_failure hdispatch
  | fail hadvance => exact happen_tick (.goesOn houtcome hs) hadvance
  | exhaust hadvance => exact happen_tick (.goesOn houtcome hs) hadvance

/-- Until then something was left to do. -/
theorem Completes.state_ne {setup : Setup} {s : Stage} {h : Happening} (hh : s.Completes setup h) :
    s.session.state ≠ .complete := by
  have hrunning {advance : Advance} (h : s.session.advance? setup s.world = some advance) :
      s.session.state ≠ .complete := by
    intro hstate
    simp [Session.advance?, hstate] at h
  cases hh with
  | load _ hstate _ => simp [hstate]
  | fail hadvance => exact hrunning hadvance
  | exhaust hadvance => exact hrunning hadvance

/-- What has come over the wire when things have happened to a session that has just started. -/
def wire (setup : Setup) (files : FileTree) (operator : Operator) (happenings : List Happening) :
    Wire :=
  wireFrom setup happenings (started setup files operator) {}

/-- All that the device has said since its port was opened, up to its first close. -/
def heard (setup : Setup) (files : FileTree) (operator : Operator)
    (happenings : List Happening) : String :=
  Reply.textOf ((wire setup files operator happenings).sent.heard
    ((started setup files operator).play setup happenings).world.now)

/-- A session that has just started has not written the transcript. -/
theorem unsaved_started (setup : Setup) (files : FileTree) (operator : Operator) :
    (started setup files operator).Unsaved setup {} files := by
  have hstart := Session.goesOn_moveTo setup { files } {} .init
  exact
    { coherent := Session.coherent_restarted {}
      outcome := rfl
      saved := hstart.proceeds.saved
      files := hstart.files
      fits := nofun }

/-- A run has not written the transcript, or nothing has happened to the session since the tick that
wrote it. -/
theorem unsaved_or_flushed (setup : Setup) (files : FileTree) (operator : Operator)
    (happenings : List Happening) :
    ((started setup files operator).play setup happenings).Unsaved setup
        (wire setup files operator happenings) (filesAfter files happenings) ∨
      ∃ before later, happenings = before ++ .wake .tick :: later ∧
        let s := (started setup files operator).play setup before
        s.Unsaved setup (wire setup files operator before) (filesAfter files before) ∧
          s.session.state = .complete ∧
          (s.happen setup (.wake .tick)).session.outcome.isSome ∧
          (s.happen setup (.wake .tick)).session.link = none ∧
          ((started setup files operator).play setup happenings).session =
            (s.happen setup (.wake .tick)).session := by
  rcases (unsaved_started setup files operator).play happenings with
    hs | ⟨before, later, rfl, hs, hstate⟩
  · exact .inl hs
  · obtain ⟨-, hflushes⟩ := hs.flushes hstate
    obtain ⟨outcome, houtcome, -⟩ := hflushes.ended
    have hended := Option.isSome_iff_exists.2 ⟨outcome, houtcome⟩
    obtain ⟨hsession, -⟩ := play_of_ended hended hflushes.link setup later
    have hplay : (started setup files operator).play setup (before ++ .wake .tick :: later) =
        (((started setup files operator).play setup before).happen setup
          (.wake .tick)).play setup later := play_append ..
    rw [← hplay] at hsession
    exact .inr ⟨before, later, rfl, hs, hstate, hended, hflushes.link, hsession⟩

/-- Before the transcript is written, a run can only end because the operator has left. -/
theorem Unsaved.abandoned {setup : Setup} {wire : Wire} {files : FileTree} {s : Stage}
    (hs : s.Unsaved setup wire files) {outcome : Except Failure String}
    (hending : s.ending? = some outcome) :
    s.operator.present = false ∧ outcome = .error (abandoned s.session.state) := by
  simp only [ending?, hs.outcome] at hending
  split at hending
  · rename_i habandoned
    cases hending
    exact ⟨by simpa using (Bool.and_eq_true_iff.1 habandoned).1, rfl⟩
  · cases hending

/-- Whatever happens to a session, in whatever order: while it has no outcome, no transcript has
been written and no file changed, and if the run ends then, the operator has left. When nothing is
left to do but to write the transcript, which a failure to load the sequence and a failed step lead
to as well as its end, the clock is armed and its tick writes it: the run returns the path exactly
when that succeeds, and the file then holds all that the device has said since its port was opened.
A session that has an outcome got it from such a tick, and writes nothing any more. -/
theorem transcript_saved (setup : Setup) (files : FileTree) (operator : Operator)
    (happenings : List Happening) :
    let s := (started setup files operator).play setup happenings
    (s.session.outcome = none →
      s.saved = [] ∧
      s.world.files = filesAfter files happenings ∧
      (∀ outcome, s.ending? = some outcome →
        s.operator.present = false ∧ outcome = .error (abandoned s.session.state)) ∧
      (s.session.state = .complete → s.Allows .tick ∧
        s.Flushes setup (heard setup files operator happenings) (s.happen setup (.wake .tick))) ∧
      ∀ h, s.Completes setup h → (s.happen setup h).session.outcome = none ∧
        (s.happen setup h).session.state = .complete) ∧
    ∀ outcome, s.session.outcome = some outcome →
      ∃ before later, happenings = before ++ .wake .tick :: later ∧
        let s₀ := (started setup files operator).play setup before
        let s₁ := s₀.happen setup (.wake .tick)
        s₀.session.outcome = none ∧ s₀.session.state = .complete ∧
        s₀.Flushes setup (heard setup files operator before) s₁ ∧
        s₁.ending? = some outcome ∧
        s.ending? = some outcome ∧
        s.saved = [setup.settings.transcriptPath setup.today] ∧
        s.world.files = filesAfter s₁.world.files later := by
  intro s
  have hstart := unsaved_started setup files operator
  rcases hstart.play happenings with hs | ⟨before, later, rfl, hs, hstate⟩
  · refine ⟨fun _ => ⟨hs.saved, hs.files, fun _ => hs.abandoned, hs.flushes, fun h hh => ?_⟩,
      fun outcome houtcome => ?_⟩
    · have hgoesOn := hs.happen fun htick : h = .wake .tick ∧ _ => hh.state_ne htick.2.2
      exact ⟨hgoesOn.outcome, hh.state_eq hs.outcome hs.coherent⟩
    · have hnone : s.session.outcome = none := hs.outcome
      rw [houtcome] at hnone
      cases hnone
  · -- Behind the tick that wrote the transcript, nothing happens to the session.
    obtain ⟨-, hflushes⟩ := hs.flushes hstate
    obtain ⟨outcome', houtcome', hending'⟩ := hflushes.ended
    obtain ⟨hsession, hsaved, hfiles⟩ := play_of_ended
      (Option.isSome_iff_exists.2 ⟨outcome', houtcome'⟩) hflushes.link setup later
    have hplay : s = (((started setup files operator).play setup before).happen setup
        (.wake .tick)).play setup later := play_append ..
    rw [← hplay] at hsession hsaved hfiles
    refine ⟨fun hnone => ?_, fun outcome houtcome => ?_⟩
    · rw [hsession, houtcome'] at hnone
      cases hnone
    · rw [hsession, houtcome'] at houtcome
      obtain rfl : outcome' = outcome := Option.some.inj houtcome
      refine ⟨before, later, rfl, hs.outcome, hstate, hflushes, hending', ?_, ?_, hfiles⟩
      · simp [ending?, hsession, houtcome']
      · rw [hsaved, hflushes.saved_eq, hs.saved]
        rfl

/-- The sample run goes on after its pause: what the device said during the pause is in the
transcript. -/
example :
    let toEnd : List Happening :=
      Sample.toPause ++ [.send 0 (.data [79, 75]), .wake (.line ""), .wake .tick]
    let s := (started Sample.setup Sample.files {}).play Sample.setup (toEnd ++ [.wake .tick])
    heard Sample.setup Sample.files {} toEnd = "OK" ∧ s.saved = ["output/_Debug_Output.txt"] := by
  decide

end Stage

end BringUp
