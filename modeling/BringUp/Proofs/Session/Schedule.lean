import BringUp.Proofs.Engine.Timing
import BringUp.Proofs.Session.Clock
import Mathlib.Order.Bounds.Basic

/-!
# The times of the ticks

The line that starts the sequence lets the clock tick at once, and the end of a step lets it tick
after the interval between two steps, however long the step has waited for a reply or for a
function. While a pause holds the sequence the clock goes on in the same rhythm, so that after the
pause the next step is tried at the first time that fits the end of the step before it. The
transcript is written at the tick after the end of the sequence.

* `Session.handle_start`: the line that starts the sequence.
* `Stage.armed_of_step`: the end of a step.
* `Stage.Held`: a pause, with the rhythm of its ticks.
* `Stage.Held.resume`: the line that ends a pause.
* `Stage.ticks_on_schedule`: the times of all steps and of the transcript.
-/

namespace BringUp

namespace Session

variable {setup : Setup} {s : Session} {w : World}

/-- Loading the sequence takes no time. -/
theorem now_load (setup : Setup) (w : World) (s : Session) : (load setup w s).2.2.now = w.now := by
  unfold load
  simp only
  split
  · rfl
  · split <;> rfl

/-- The line that starts the sequence arms the clock for now, and the sequence runs from its start
on, or the run is completed because a file cannot be loaded. -/
theorem handle_start (hs : s.Coherent) (hstate : s.state = .awaitStart) (setup : Setup)
    (text : String) (w : World) :
    (handle setup (.input text) w s).2.now = w.now ∧
      (handle setup (.input text) w s).1.nextTick = some w.now ∧
      (handle setup (.input text) w s).1.outcome = s.outcome ∧
      ((handle setup (.input text) w s).1.state = .running ∧
          (handle setup (.input text) w s).1.cursor? = some 0 ∨
        (handle setup (.input text) w s).1.state = .complete ∧
          ∃ failure, LoadFails setup w failure) := by
  obtain ⟨-, -, htick, -⟩ := hs.opened hstate
  have hnow := now_load setup w { s with state := .running }
  rw [handle, dispatch_start hs hstate]
  rcases load_cases setup w { s with state := .running } with
    ⟨failure, paths, w', hload, -, -, hfails⟩ | ⟨engine, w', hload, hcursor, -⟩
  · rw [hload] at hnow ⊢
    simp only [moveTo_complete_of_unarmed htick]
    exact ⟨hnow, congrArg some hnow, trivial, .inr ⟨trivial, failure, hfails⟩⟩
  · rw [hload] at hnow ⊢
    exact ⟨hnow, congrArg some hnow, rfl, .inl ⟨rfl, congrArg some hcursor⟩⟩

end Session

namespace Stage

open Session

variable {setup : Setup} {s : Stage} {interval finished : Nat} {text : String} {h : Happening}
  {later : List Happening}

/-! ### Starting, and the end of a step -/

/-- The line that starts the sequence arms the clock for the present time. -/
theorem armed_of_start (hs : s.session.Sound) (hallows : s.Allows (.line text))
    (hstate : s.session.state = .awaitStart) (setup : Setup) :
    let after := s.happen setup (.wake (.line text))
    after.Armed s.world.now ∧ after.world.now = s.world.now ∧
      (after.session.state = .running ∧ after.session.cursor? = some 0 ∨
        after.session.state = .complete ∧ ∃ failure, LoadFails setup s.world failure) := by
  have houtcome : s.session.outcome = none := outcome_of_allows hallows
  obtain ⟨hnow, htick, hsame, hafter⟩ :=
    handle_start (hs.coherent houtcome) hstate setup text s.world
  have hsound := sound_happen hs setup (.wake (.line text))
  have houtcome' := hsame.trans houtcome
  rw [happen, if_pos hallows] at hsound ⊢
  exact ⟨⟨houtcome', hsound.coherent houtcome', htick, hnow.le⟩, hnow, hafter⟩

/-- The end of a step that keeps the connection arms the clock for the time after the interval. -/
theorem armed_of_step {engine : Engine} {link : Link} (hs : s.session.Sound)
    (hstate : s.session.state = .running) (hengine : s.session.engine = some engine)
    (hlink : s.session.link = some link)
    (hkept : (engine.runNext setup.tools (s.session.rig s.world link)).1 ≠ .transportClosed) :
    let ran := engine.runNext setup.tools (s.session.rig s.world link)
    let after := s.happen setup (.wake .tick)
    after.Armed (after.world.now + setup.settings.stepInterval) ∧
      after.world.trace = ran.2.2.trace ∧ after.session.engine = some ran.2.1 ∧
      after.session.state = ran.1.leadsTo := by
  have houtcome : s.session.outcome = none := hs.outcome_of_link hlink
  have hsound := sound_happen hs setup (.wake .tick)
  rw [happen, if_pos (allows_tick_of_running hs hstate hlink), perform,
    tick_of_kept hstate hengine hlink hkept] at hsound ⊢
  exact ⟨⟨houtcome, hsound.coherent houtcome, rfl, Nat.le_add_right _ _⟩, rfl, rfl, rfl⟩

/-! ### Pauses -/

/-- A pause since a step has finished: the clock is armed for a time in the rhythm of the steps, and
the tick before is over. -/
structure Held (interval finished : Nat) (s : Stage) : Prop where
  /-- The session waits for the operator. -/
  state : s.session.state = .awaitContinue
  /-- The clock is armed for the first time in the rhythm that may be still to come. -/
  armed : ∃ k, s.Armed (finished + (k + 1) * interval) ∧ finished + k * interval ≤ s.world.now

/-- A pause goes on in the same rhythm, whatever happens but for a line of the operator. -/
theorem Held.happen (hs : s.Held setup.settings.stepInterval finished) (hin : s.InTime h)
    (hline : ¬ h.IsLine)
    (hopen : ∃ new, (s.happen setup h).world.trace.effects = s.world.trace.effects ++ new ∧
      .closed ∉ new) :
    (s.happen setup h).Held setup.settings.stepInterval finished ∧
      (s.happen setup h).session.engine = s.session.engine := by
  obtain ⟨hstate, k, harmed, hbegun⟩ := hs
  have hsound := sound_happen (.goesOn harmed.outcome harmed.coherent) setup h
  by_cases htick : h.IsTick
  · -- The tick comes at its time, and the clock is armed for the next one.
    obtain ⟨rfl⟩ : h = .wake .tick := by
      cases h with
      | wake o => cases o <;> first | rfl | exact htick.elim
      | _ => exact htick.elim
    obtain ⟨hending, hdue⟩ := hin
    have hnow := harmed.due_tick_iff.1 hdue
    have hnext : finished + (k + 1 + 1) * setup.settings.stepInterval =
        s.world.now + setup.settings.stepInterval := by
      rw [hnow, Nat.add_mul (k + 1), Nat.one_mul, Nat.add_assoc]
    rw [Stage.happen, if_pos (allows_of_due hending hdue), perform, tick_of_held hstate] at hsound ⊢
    refine ⟨⟨hstate, k + 1, ⟨harmed.outcome, hsound.coherent harmed.outcome, ?_, ?_⟩, hnow.ge⟩, rfl⟩
    · rw [hnext]
    · rw [hnext]
      exact Nat.le_add_right _ _
  · have hbefore := harmed.before hin htick hopen
    obtain ⟨link, state, hsession, hsame⟩ := hbefore.session
    obtain rfl : state = s.session.state := hsame.resolve_right fun hheld => hline hheld.1
    exact ⟨⟨by rw [hsession, hstate], k, hbefore.armed harmed hsound, hbegun.trans hbefore.now_le⟩,
      by rw [hsession]⟩

/-- A pause goes on in the same rhythm, whatever happens but for lines of the operator. -/
theorem Held.play (hs : s.Held setup.settings.stepInterval finished)
    (hlater : s.Meanwhile setup later) (hlines : ∀ h ∈ later, ¬ h.IsLine) :
    (s.play setup later).Held setup.settings.stepInterval finished ∧
      (s.play setup later).session.engine = s.session.engine := by
  induction later generalizing s with
  | nil => exact ⟨hs, rfl⟩
  | cons h later ih =>
    obtain ⟨k, harmed, -⟩ := hs.armed
    obtain ⟨hin, hopen, hrest⟩ := hlater.cons (.goesOn harmed.outcome harmed.coherent)
    obtain ⟨hline, hlines⟩ := List.forall_mem_cons.1 hlines
    obtain ⟨hheld, hengine⟩ := hs.happen hin hline hopen
    obtain ⟨hheld', hengine'⟩ := ih hheld hrest hlines
    exact ⟨hheld', hengine'.trans hengine⟩

/-- The first time in the rhythm of the steps that is still to come. -/
theorem isLeast_of_between {now k : Nat} (hbegun : finished + k * interval ≤ now)
    (hnext : now ≤ finished + (k + 1) * interval) (hoff : ∀ k, now ≠ finished + k * interval) :
    IsLeast {t | now < t ∧ ∃ k, t = finished + k * interval} (finished + (k + 1) * interval) := by
  refine ⟨⟨lt_of_le_of_ne hnext (hoff _), k + 1, rfl⟩, ?_⟩
  rintro _ ⟨hlt, j, rfl⟩
  -- No earlier multiple of the interval lies above the present time.
  have hkj : k + 1 ≤ j := by
    by_contra hjk
    have hle : j * interval ≤ k * interval := Nat.mul_le_mul_right _ (by omega)
    omega
  exact Nat.add_le_add_left (Nat.mul_le_mul_right _ hkj) _

/-- A line of the operator ends a pause, and the clock ticks at the first time in the rhythm of the
steps that is still to come. -/
theorem Held.resume (hs : s.Held interval finished) (hin : s.InTime (.wake (.line text)))
    (hoff : ∀ k, s.world.now ≠ finished + k * interval) (setup : Setup) :
    let resumed := s.happen setup (.wake (.line text))
    resumed.world.now = s.world.now ∧ resumed.session.state = .running ∧
      resumed.session.engine = s.session.engine ∧
      ∃ next, IsLeast {t | s.world.now < t ∧ ∃ k, t = finished + k * interval} next ∧
        resumed.TicksAt setup next := by
  obtain ⟨hstate, k, harmed, hbegun⟩ := hs
  have hsound := sound_happen (.goesOn harmed.outcome harmed.coherent) setup (.wake (.line text))
  have hhandled := handle_line_of_armed harmed.coherent harmed.nextTick setup text s.world
  rw [if_pos hstate] at hhandled
  rw [Stage.happen, if_pos (allows_of_due hin.1 hin.2), perform, hhandled] at hsound ⊢
  refine ⟨rfl, rfl, rfl, _, isLeast_of_between hbegun harmed.now_le hoff, ?_⟩
  exact ticksAt_of_armed
    ⟨harmed.outcome, hsound.coherent harmed.outcome, harmed.nextTick, harmed.now_le⟩
    SessionState.noConfusion

/-! ### All ticks -/

/-- A tick that comes while a sequence runs tries its next step at once. -/
theorem tried_at_tick {engine : Engine} {link : Link} (hs : s.session.Sound)
    (hstate : s.session.state = .running) (hengine : s.session.engine = some engine)
    (hlink : s.session.link = some link)
    (hkept : (engine.runNext setup.tools (s.session.rig s.world link)).1 ≠ .transportClosed)
    (hcursor : engine.cursor < engine.size) :
    s.world.trace.log ++ [(s.world.now, .tried engine.cursor)] <+:
      (s.happen setup (.wake .tick)).world.trace.log := by
  obtain ⟨-, htrace, -, -⟩ := armed_of_step hs hstate hengine hlink hkept
  obtain ⟨entry, hentry⟩ : ∃ entry, engine.entries[engine.cursor]? = some entry :=
    ⟨_, List.getElem?_eq_getElem hcursor⟩
  have hproceeds := Engine.proceeds_of_trying hentry setup setup.tools (s.session.rig s.world link)
  rw [htrace]
  exact hproceeds.log

/-- A tick that comes when everything is done writes the transcript at once. -/
theorem saving_at_tick (hs : s.session.Sound) (hstate : s.session.state = .complete)
    (hallows : s.Allows .tick) (setup : Setup) :
    s.world.trace.log ++ [(s.world.now, .saving (setup.settings.transcriptPath setup.today))] <+:
      (s.happen setup (.wake .tick)).world.trace.log := by
  have houtcome : s.session.outcome = none := outcome_of_allows hallows
  obtain ⟨link, hlink⟩ := Option.isSome_iff_exists.1 ((hs.coherent houtcome).complete hstate).1
  rw [happen, if_pos hallows, perform, tick_complete hstate]
  rcases hwritten : writeTranscript (setup.settings.transcriptPath setup.today)
    (link.replies.drain s.world.now).transcript s.world.files with ⟨failure, files⟩
  cases failure with
  | none =>
    rw [flush_of_written hlink hwritten]
    simp [World.now]
  | some failure =>
    rw [flush_of_failure hlink hwritten]
    simp [World.now]

/-- In every run the steps and the transcript have their times. The line that starts the sequence
lets the clock tick at the same time, and then the first step is tried, or the transcript is written
if the sequence cannot be loaded. A step is finished when the call or the request is over for which
it has to wait, and at once if there is none. It then lets the clock tick after the interval, for
the next step, or for the transcript if the step has failed or there was none. If it asks for a
pause, the ticks go on in this rhythm, and a line of the operator at a time between two of them lets
the clock tick for the next step at the first time in the rhythm that is still to come. Whatever the
operator types and the device sends until a tick, as long as the connection is not closed, does not
change its time. -/
theorem ticks_on_schedule (setup : Setup) (files : FileTree) (operator : Operator)
    (past : List Happening) :
    let s := (started setup files operator).play setup past
    let interval := setup.settings.stepInterval
    (∀ text, s.session.state = .awaitStart → s.Allows (.line text) →
      let after := s.happen setup (.wake (.line text))
      after.TicksAt setup s.world.now ∧ after.world.now = s.world.now ∧
        (after.session.state = .running ∧ after.session.cursor? = some 0 ∨
          after.session.state = .complete ∧ ∃ failure, LoadFails setup s.world failure)) ∧
    (∀ engine link, s.session.state = .running → s.session.engine = some engine →
      s.session.link = some link →
      let ran := engine.runNext setup.tools (s.session.rig s.world link)
      let after := s.happen setup (.wake .tick)
      let finished := after.world.now
      ran.1 ≠ .transportClosed →
        finished = engine.finish setup.tools (s.session.rig s.world link) ∧
        (engine.cursor < engine.size →
          s.world.trace.log ++ [(s.world.now, .tried engine.cursor)] <+: after.world.trace.log) ∧
        after.world.trace = ran.2.2.trace ∧ after.session.engine = some ran.2.1 ∧
        after.session.state = ran.1.leadsTo ∧
        (ran.1 ≠ .pause → after.TicksAt setup (finished + interval)) ∧
        (ran.1 = .pause → ∀ later, after.Meanwhile setup later → (∀ h ∈ later, ¬ h.IsLine) →
          let held := after.play setup later
          ∀ text, held.InTime (.wake (.line text)) →
            (∀ k, held.world.now ≠ finished + k * interval) →
            let resumed := held.happen setup (.wake (.line text))
            resumed.world.now = held.world.now ∧ resumed.session.state = .running ∧
              resumed.session.engine = after.session.engine ∧
              ∃ next, IsLeast {t | held.world.now < t ∧ ∃ k, t = finished + k * interval} next ∧
                resumed.TicksAt setup next)) ∧
    (s.session.state = .complete → s.Allows .tick →
      s.world.trace.log ++ [(s.world.now, .saving (setup.settings.transcriptPath setup.today))] <+:
        (s.happen setup (.wake .tick)).world.trace.log) := by
  intro s interval
  have hs : s.session.Sound := sound_play setup files operator past
  refine ⟨fun text hstate hallows => ?_, fun engine link hstate hengine hlink => ?_,
    fun hstate hallows => saving_at_tick hs hstate hallows setup⟩
  · intro after
    obtain ⟨harmed, hnow, hafter⟩ := armed_of_start hs hallows hstate setup
    refine ⟨ticksAt_of_armed harmed ?_, hnow, hafter⟩
    rcases hafter with ⟨hstate', -⟩ | ⟨hstate', -⟩ <;> rw [hstate'] <;> decide
  · intro ran after finished hkept
    obtain ⟨harmed, htrace, hengine', hstate'⟩ := armed_of_step hs hstate hengine hlink hkept
    have hfinished : finished = engine.finish setup.tools (s.session.rig s.world link) :=
      (congrArg Trace.now htrace).trans (engine.now_runNext _ _)
    refine ⟨hfinished, tried_at_tick hs hstate hengine hlink hkept, htrace, hengine', hstate',
      fun hpause => ticksAt_of_armed harmed ?_, ?_⟩
    · -- Only a pause leads to a state in which the operator may end the run.
      rw [hstate']
      show ran.1.leadsTo ≠ .awaitContinue
      cases hadvance : ran.1 <;> simp_all [Advance.leadsTo]
    · intro hpause later hlater hlines held text hin hoff
      have hheld : after.Held interval finished := by
        refine ⟨by rw [hstate']; exact congrArg Advance.leadsTo hpause, 0, ?_, ?_⟩
        · rwa [Nat.zero_add, Nat.one_mul]
        · rw [Nat.zero_mul, Nat.add_zero]
      obtain ⟨hheld', hsame⟩ := hheld.play hlater hlines
      obtain ⟨hnow, hrunning, hengine'', hnext⟩ := hheld'.resume hin hoff setup
      exact ⟨hnow, hrunning, hengine''.trans hsame, hnext⟩

/-- With an interval of 500, a sequence that is started at 30 calls a function that takes 700. Its
second step, a pause, is tried at 1230. After a line at 1700 the end of the sequence is noticed at
1730, and the transcript is written at 2230. -/
example :
    let slow : Function := fun _ _ => { duration := 700, result := .ok "OK" }
    let setup : Setup := { Sample.setup with functions := Table.set "f" slow {} }
    let files : FileTree :=
      { entries := [(["c"], .file [126, 102, 58, 79, 75]), (["s"], .file [48, 10, 35, 35, 120])] }
    let operator := Operator.ofLines [(0, "p"), (30, ""), (1700, "")] none
    let log := (run setup 5000 20 files operator).2.world.trace.log
    (log.filter fun entry => entry.2.tried?.isSome || entry.2.saved?.isSome).map Prod.fst =
      [30, 1230, 2230] := by decide +kernel

end Stage

end BringUp
