import BringUp.Proofs.Session.Transcript
import BringUp.Proofs.Text.Octets

/-!
# The transcript of a run that connects again

A run may lose its connection and open a port again, any number of times. Each link records what it
receives, and the transcript that is written at the end is the record of the last link. What came
over the links before it went with them.

* `Stage.closing`: what has come over a link by the time that it is given up.
* `Stage.received`: what has come over all links of a run.
* `Stage.exists_flush_of_ok`: how a run comes to return a path.
* `Stage.transcript_of_last_link`: which part of it the transcript has.
-/

namespace BringUp

namespace Session

/-- The end of a run is not heard on the wire, and takes no time. -/
theorem wire_flush {s : Session} {link : Link} (hlink : s.link = some link) (setup : Setup)
    (w : World) (wire : Wire) (nextTick : Option Nat) :
    wire.between setup w.trace (flush setup w { s with nextTick }).2.trace = wire ∧
      (flush setup w { s with nextTick }).2.now = w.now := by
  unfold flush
  simp only [closeLink, hlink]
  generalize writeTranscript _ _ _ = written
  obtain ⟨failure, files⟩ := written
  -- The wire hears of no effect that a flush has, whether the write succeeds or not.
  cases failure with
  | some failure =>
    exact ⟨by simp [Link.close, World.record, Wire.between, Wire.hearAll, Wire.hear], rfl⟩
  | none =>
    exact ⟨by simp [Link.close, World.record, World.showLines, Trace.showLines, Wire.between,
      Wire.hearAll, Wire.hear], rfl⟩

/-- A link that is given up is closed. -/
theorem Turn.keeps_link {setup : Setup} {o : Occurrence} {s s' : Session} {new : List Effect}
    (h : Turn setup o s new s') (hclosed : .closed ∉ new) (hlink : s.link.isSome) :
    s'.link.isSome := by
  cases h with
  | rest hsame _ _ => exact hsame.trans hlink
  | connect | step | fail => rfl
  | refuse | load | loadFail | resume | exhaust => exact hlink
  | lose => simp [restarting] at hclosed
  | close => simp [restarting] at hclosed
  | finish => simp at hclosed

end Session

namespace Stage

variable {setup : Setup} {s : Stage} {wire : Wire}

/-- What has come over a link by the time that it is given up, if it is when something happens. -/
def closing (setup : Setup) (s : Stage) (wire : Wire) (h : Happening) : String :=
  if s.session.link.isSome && (s.happen setup h).session.link.isNone then
    Reply.textOf ((s.listen setup wire h).sent.heard (s.happen setup h).world.now)
  else ""

/-- What has come over the links that are given up when things happen. -/
def closedFrom (setup : Setup) : List Happening → Stage → Wire → String
  | [], _, _ => ""
  | h :: happenings, s, wire =>
    s.closing setup wire h ++
      closedFrom setup happenings (s.happen setup h) (s.listen setup wire h)

theorem closedFrom_append (happenings later : List Happening) :
    closedFrom setup (happenings ++ later) s wire =
      closedFrom setup happenings s wire ++
        closedFrom setup later (s.play setup happenings) (wireFrom setup happenings s wire) := by
  induction happenings generalizing s wire with
  | nil => simp [closedFrom, play, wireFrom]
  | cons h happenings ih =>
    simp only [List.cons_append, closedFrom, ih, String.append_assoc]
    rfl

/-- A session that is over has no link to give up. -/
theorem closedFrom_of_ended (houtcome : s.session.outcome.isSome) (hlink : s.session.link = none)
    (later : List Happening) : closedFrom setup later s wire = "" := by
  induction later generalizing s wire with
  | nil => rfl
  | cons h later ih =>
    obtain ⟨hsession, -⟩ := happen_of_ended houtcome hlink setup h
    rw [closedFrom, closing, hlink, ih (by rwa [hsession]) (by rwa [hsession])]
    rfl

/-- While no link is closed, none is given up. -/
theorem closedFrom_of_notMem (hs : s.session.Sound) {happenings : List Happening}
    (h : .closed ∉ (s.play setup happenings).world.trace.effects) :
    closedFrom setup happenings s wire = "" := by
  induction happenings generalizing s wire with
  | nil => rfl
  | cons happening happenings ih =>
    have hsound := sound_happen hs setup happening
    obtain ⟨o, -, new, heffects, hturn⟩ := turns_happen hs setup happening
    obtain ⟨more, hmore⟩ := effects_play hsound setup happenings
    have hnew : .closed ∉ new := by
      rw [play_cons, hmore, heffects] at h
      simp_all
    have hkept : (s.session.link.isSome &&
        (s.happen setup happening).session.link.isNone) = false := by
      cases hlink : s.session.link.isSome with
      | false => rfl
      | true =>
        have := hturn.keeps_link hnew hlink
        simp_all [Option.isSome_iff_ne_none]
    rw [closedFrom, closing, hkept, ih hsound h]
    rfl

section

variable (setup : Setup) (files : FileTree) (operator : Operator) (happenings : List Happening)

/-- What has come over the links that a run has given up, one after the other. -/
def overEarlier : String := closedFrom setup happenings (started setup files operator) {}

/-- What has come over all links of a run, one after the other: those that it has given up, and the
one that is open, if one is. -/
def received : String :=
  overEarlier setup files operator happenings ++
    if ((started setup files operator).play setup happenings).session.link.isSome then
      heard setup files operator happenings
    else ""

end

/-- The tick that writes the transcript gives up the last link, over which nothing more has come
by then. -/
theorem closing_of_flush (hs : s.session.Coherent) (hallows : s.Allows .tick)
    (hstate : s.session.state = .complete) :
    s.closing setup wire (.wake .tick) = Reply.textOf (wire.sent.heard s.world.now) := by
  obtain ⟨link, hlink⟩ := Option.isSome_iff_exists.1 (hs.complete hstate).1
  obtain ⟨hwire, hnow⟩ := Session.wire_flush hlink setup s.world wire
    (some (s.world.now + setup.settings.stepInterval))
  have hnone : (s.perform setup .tick).session.link = none := (flushes_tick hstate hlink setup).link
  have hafter : (s.perform setup .tick).world = (Session.flush setup s.world
      { s.session with nextTick := some (s.world.now + setup.settings.stepInterval) }).2 := by
    rw [perform, Session.tick_complete hstate]
  rw [closing, listen, happen, if_pos hallows, hlink, hnone, hafter, hwire, hnow]
  rfl

section

variable {files : FileTree} {operator : Operator} {happenings : List Happening}

/-- A run that returns a path got it from the tick that wrote the transcript, and nothing has
happened to the session since. -/
theorem exists_flush_of_ok {path : String}
    (hok : ((started setup files operator).play setup happenings).session.outcome =
      some (.ok path)) :
    ∃ before later, happenings = before ++ .wake .tick :: later ∧
      let s := (started setup files operator).play setup before
      s.session.Coherent ∧ s.session.state = .complete ∧ s.Allows .tick ∧
        s.Flushes setup (heard setup files operator before) (s.happen setup (.wake .tick)) ∧
        (s.happen setup (.wake .tick)).session.outcome = some (.ok path) ∧
        ((started setup files operator).play setup happenings).session =
          (s.happen setup (.wake .tick)).session := by
  rcases unsaved_or_flushed setup files operator happenings with
    hs | ⟨before, later, rfl, hs, hstate, -, -, hsession⟩
  · rw [hs.outcome] at hok
    cases hok
  · obtain ⟨hallows, hflushes⟩ := hs.flushes hstate
    rw [hsession] at hok
    exact ⟨before, later, rfl, hs.coherent, hstate, hallows, hflushes, hok, hsession⟩

/-- When a run is over, its last link has been given up with all that came over it. -/
theorem received_of_flush {before later : List Happening} {s : Stage}
    (hs : s = (started setup files operator).play setup before) (hcoherent : s.session.Coherent)
    (hallows : s.Allows .tick) (hstate : s.session.state = .complete)
    (hended : (s.happen setup (.wake .tick)).session.outcome.isSome)
    (hlink : (s.happen setup (.wake .tick)).session.link = none)
    (hsession : ((started setup files operator).play setup
      (before ++ .wake .tick :: later)).session = (s.happen setup (.wake .tick)).session) :
    received setup files operator (before ++ .wake .tick :: later) =
      overEarlier setup files operator before ++ heard setup files operator before := by
  subst hs
  rw [received, hsession, hlink, overEarlier, closedFrom_append, closedFrom,
    closing_of_flush hcoherent hallows hstate, closedFrom_of_ended hended hlink]
  simp [overEarlier, heard, Stage.wire]

end

/-- A run that returns a path has written what came over its last link. All that it received is that
text behind what came over the links before, so the file has all of it exactly when nothing came
over those; and nothing did if no link was closed before. -/
theorem transcript_of_last_link (setup : Setup) (files : FileTree) (operator : Operator)
    (happenings : List Happening) {path : String}
    (hok : ((started setup files operator).play setup happenings).session.outcome =
      some (.ok path)) :
    ∃ before later, happenings = before ++ .wake .tick :: later ∧
      let written :=
        ((started setup files operator).play setup (before ++ [.wake .tick])).world.files
      written.readBytes path = .ok (Text.Utf8.encode (heard setup files operator before)) ∧
      received setup files operator happenings =
        overEarlier setup files operator before ++ heard setup files operator before ∧
      (written.readBytes path =
          .ok (Text.Utf8.encode (received setup files operator happenings)) ↔
        overEarlier setup files operator before = "") ∧
      (.closed ∉ ((started setup files operator).play setup before).world.trace.effects →
        overEarlier setup files operator before = "") := by
  obtain ⟨before, later, rfl, hcoherent, hstate, hallows, hflushes, houtcome, hsession⟩ :=
    exists_flush_of_ok hok
  have hending : (((started setup files operator).play setup before).happen setup
      (.wake .tick)).ending? = some (.ok path) := by
    simp only [ending?, houtcome]
  obtain ⟨-, hread, -⟩ := hflushes.ok path hending
  have hreceived := received_of_flush rfl hcoherent hallows hstate (by rw [houtcome]; rfl)
    hflushes.link hsession
  have htick : (started setup files operator).play setup (before ++ [.wake .tick]) =
      ((started setup files operator).play setup before).happen setup (.wake .tick) :=
    play_append ..
  refine ⟨before, later, rfl, ?_⟩
  simp only [htick, hreceived, hread]
  refine ⟨trivial, trivial, ?_, closedFrom_of_notMem (sound_play setup files operator [])⟩
  rw [Except.ok.injEq, eq_comm, Text.Utf8.encode_append_eq_iff]

/-- The sample run goes on after its pause, and writes what came over its link. -/
theorem one_link_saved :
    let toEnd : List Happening :=
      Sample.toPause ++ [.send 0 (.data [79, 75]), .wake (.line ""), .wake .tick, .wake .tick]
    received Sample.setup Sample.files {} toEnd = "OK" ∧
      ∃ before later, toEnd = before ++ .wake .tick :: later ∧
        ((started Sample.setup Sample.files {}).play Sample.setup
          (before ++ [.wake .tick])).world.files.readBytes "output/_Debug_Output.txt" =
            .ok (Text.Utf8.encode (heard Sample.setup Sample.files {} before)) := by
  intro toEnd
  have hok : ((started Sample.setup Sample.files {}).play Sample.setup toEnd).session.outcome =
      some (.ok "output/_Debug_Output.txt") := by decide +kernel
  obtain ⟨before, later, hsplit, hread, -⟩ :=
    transcript_of_last_link Sample.setup Sample.files {} toEnd hok
  exact ⟨by decide, before, later, hsplit, hread⟩

/-- The device says `OK` while the sequence is held, and hangs up. The operator opens the port
again, and the sequence runs to its end while the device says `GO`. The run has received both, and
the transcript has `GO` alone. -/
theorem earlier_link_forgotten :
    let happenings : List Happening :=
      Sample.toPause ++ [.send 0 (.data [79, 75]), .hangUp, .wake .arrival, .wake .arrival] ++
        Sample.toPause ++ [.send 0 (.data [71, 79]), .wake (.line ""), .wake .tick, .wake .tick]
    let s := (started Sample.setup Sample.files {}).play Sample.setup happenings
    s.session.outcome = some (.ok "output/_Debug_Output.txt") ∧
      received Sample.setup Sample.files {} happenings = "OKGO" ∧
      s.world.files.readBytes "output/_Debug_Output.txt" = .ok [71, 79] ∧
      s.world.files.readBytes "output/_Debug_Output.txt" ≠
        .ok (Text.Utf8.encode (received Sample.setup Sample.files {} happenings)) := by
  decide +kernel

end Stage

end BringUp
