import BringUp.Proofs.Reply.Moves

/-!
# What a wait can learn about the past

When a wait is armed, all that has arrived is taken and no line of it is queued. Two pasts that
leave the same unfinished line cannot be told apart any more, except by the transcript; an
unfinished line is continued by what arrives next, and is seen as a part of the first line.

* `Scene.arm_prelude`: what is left of the past when a wait is armed.
* `Scene.playAll_withTranscript`: no answer depends on the transcript, which only grows.
* `answers_eq_iff_unfinished_eq`: two pasts lead to the same answers exactly when they leave the
  same unfinished line.
-/

namespace BringUp.Reply

/-! ### The transcript is never read -/

namespace Stream

/-- The stream with another transcript. -/
def withTranscript (text : String) (s : Stream) : Stream := { s with transcript := text }

/-- A computation on streams only adds to the transcript, and what it gives does not depend on the
transcript. -/
def OnlyRecords {α : Type} (f : Stream → α × Stream) (s : Stream) : Prop :=
  ∃ added, ∀ text,
    f (s.withTranscript text) = ((f s).1, (f s).2.withTranscript (text ++ added))

/-- Computations that do not touch the transcript. -/
theorem OnlyRecords.of_untouched {α : Type} {f : Stream → α × Stream} {s : Stream}
    (h : ∀ text, f (s.withTranscript text) = ((f s).1, (f s).2.withTranscript text)) :
    OnlyRecords f s :=
  ⟨"", fun text => by rw [String.append_empty, h]⟩

/-- Taking an arrival adds its text. -/
theorem take_withTranscript (a : Arrival) (text : String) (s : Stream) :
    (s.withTranscript text).take a = (s.take a).withTranscript (text ++ a.text) := by
  cases a with
  | data bytes => rfl
  | closed => rw [Arrival.text, String.append_empty]; rfl

/-- A computation that takes an arrival first. -/
theorem OnlyRecords.take {α : Type} {f g : Stream → α × Stream} {s : Stream} {a : Arrival}
    (h : OnlyRecords g (s.take a)) (hf : ∀ text, f (s.withTranscript text) =
      g ((s.withTranscript text).take a)) (hs : f s = g (s.take a)) : OnlyRecords f s := by
  obtain ⟨added, hadded⟩ := h
  refine ⟨a.text ++ added, fun text => ?_⟩
  rw [hf, take_withTranscript, hadded, hs, String.append_assoc]

theorem onlyRecords_drainFrom (now : Nat) (arrivals : List (Nat × Arrival)) (s : Stream) :
    OnlyRecords (fun s => ((), drainFrom now arrivals s)) s := by
  -- Whether the next arrival is taken depends on the stream being open and on the time alone.
  induction arrivals generalizing s with
  | nil => exact .of_untouched fun text => rfl
  | cons arrival rest ih =>
    obtain ⟨time, a⟩ := arrival
    by_cases hclosed : s.closed = true
    · exact .of_untouched fun text => by simp [drainFrom, withTranscript, withArrivals, hclosed]
    by_cases hdue : time ≤ now
    · refine (ih (s.take a)).take (fun text => ?_) ?_
      · simp [drainFrom, withTranscript, hclosed, hdue]
      · simp [drainFrom, hclosed, hdue]
    · exact .of_untouched fun text => by
        simp [drainFrom, withTranscript, withArrivals, hclosed, hdue]

theorem onlyRecords_nextLineFrom (now : Nat) (arrivals : List (Nat × Arrival)) (s : Stream) :
    OnlyRecords (nextLineFrom now arrivals) s := by
  induction arrivals generalizing s with
  | nil =>
    refine .of_untouched fun text => ?_
    obtain ⟨inbox, splitter, lines, transcript, armed, closed⟩ := s
    cases lines with
    | cons line lines => simp [nextLineFrom, withTranscript, withArrivals]
    | nil => cases closed <;> cases h : inbox.hungUp <;>
        simp [nextLineFrom, withTranscript, withArrivals, h]
  | cons arrival rest ih =>
    obtain ⟨time, a⟩ := arrival
    cases hlines : s.lines with
    | cons line lines =>
      exact .of_untouched fun text => by
        simp [nextLineFrom, withTranscript, withArrivals, hlines]
    | nil =>
      by_cases hclosed : s.closed = true
      · exact .of_untouched fun text => by
          simp [nextLineFrom, withTranscript, withArrivals, hlines, hclosed]
      by_cases hdue : time ≤ now
      · refine (ih (s.take a)).take (fun text => ?_) ?_
        · rw [nextLineFrom]
          simp [withTranscript, hlines, hclosed, hdue]
        · rw [nextLineFrom]
          simp [hlines, hclosed, hdue]
      · exact .of_untouched fun text => by
          simp [nextLineFrom, withTranscript, withArrivals, hlines, hclosed, hdue]

theorem onlyRecords_awaitFrom (wait : Wait) (deadline : Nat) (arrivals : List (Nat × Arrival))
    (now : Nat) (s : Stream) :
    OnlyRecords (fun s =>
      let (outcome, time, s) := awaitFrom wait deadline arrivals now s
      ((outcome, time), s)) s := by
  induction arrivals generalizing now s with
  | nil =>
    refine .of_untouched fun text => ?_
    obtain ⟨inbox, splitter, lines, transcript, armed, closed⟩ := s
    cases hfound : wait.resolve? lines with
    | some found => simp [awaitFrom, withTranscript, withArrivals, hfound]
    | none => cases closed <;> cases h : inbox.hungUp <;>
        simp [awaitFrom, withTranscript, withArrivals, hfound, h]
  | cons arrival rest ih =>
    obtain ⟨time, a⟩ := arrival
    cases hfound : wait.resolve? s.lines with
    | some found =>
      exact .of_untouched fun text => by simp [awaitFrom, withTranscript, withArrivals, hfound]
    | none =>
      by_cases hclosed : s.closed = true
      · exact .of_untouched fun text => by
          simp [awaitFrom, withTranscript, withArrivals, hfound, hclosed]
      by_cases hdue : time ≤ now ∨ time < deadline
      · refine (ih (max now time) (s.take a)).take (fun text => ?_) ?_
        · rw [awaitFrom]
          simp [withTranscript, hfound, hclosed, hdue]
        · rw [awaitFrom]
          simp [hfound, hclosed, hdue]
      · exact .of_untouched fun text => by
          simp [awaitFrom, withTranscript, withArrivals, hfound, hclosed, hdue]

/-- What looking at an open stream gives when an arrival is there. -/
theorem pump?_of_due {now time : Nat} {a : Arrival} {rest : List (Nat × Arrival)} {s : Stream}
    (hopen : s.closed = false) (harrivals : s.inbox.arrivals = (time, a) :: rest)
    (hdue : time ≤ now) :
    s.pump? now =
      some (!((s.withArrivals rest).take a).closed, (s.withArrivals rest).take a) := by
  simp [pump?, hopen, harrivals, hdue]

/-- Looking at the stream only adds to the transcript, too. -/
theorem pump?_withTranscript (now : Nat) (s : Stream) :
    ∃ added, ∀ text, (s.withTranscript text).pump? now =
      (s.pump? now).map fun (isOpen, s) => (isOpen, s.withTranscript (text ++ added)) := by
  cases hclosed : s.closed with
  | true => exact ⟨"", fun text => by simp [pump?, withTranscript, hclosed]⟩
  | false =>
    cases harrivals : s.inbox.arrivals with
    | nil =>
      cases hup : s.inbox.hungUp <;>
        exact ⟨"", fun text => by simp [pump?, withTranscript, hclosed, harrivals, hup]⟩
    | cons arrival rest =>
      obtain ⟨time, a⟩ := arrival
      by_cases hdue : time ≤ now
      · refine ⟨a.text, fun text => ?_⟩
        have htake : ((s.withTranscript text).withArrivals rest).take a =
            ((s.withArrivals rest).take a).withTranscript (text ++ a.text) :=
          take_withTranscript a text (s.withArrivals rest)
        rw [pump?_of_due hclosed harrivals hdue,
          pump?_of_due (s := s.withTranscript text) hclosed harrivals hdue, htake, Option.map_some]
        rfl
      · exact ⟨"", fun text => by simp [pump?, withTranscript, hclosed, harrivals, hdue]⟩

end Stream

namespace Scene

/-- The scene with another transcript. -/
def withTranscript (text : String) (s : Scene) : Scene :=
  { s with stream := s.stream.withTranscript text }

/-- A move only adds to the transcript, and its answer does not depend on the transcript. -/
theorem play_withTranscript (move : Move) (s : Scene) :
    ∃ added, ∀ text, (s.withTranscript text).play move =
      ((s.play move).1, (s.play move).2.withTranscript (text ++ added)) := by
  cases move with
  | send delay a => exact ⟨"", fun text => by rw [String.append_empty]; rfl⟩
  | hangUp => exact ⟨"", fun text => by rw [String.append_empty]; rfl⟩
  | pass time => exact ⟨"", fun text => by rw [String.append_empty]; rfl⟩
  | disarm => exact ⟨"", fun text => by rw [String.append_empty]; rfl⟩
  | arm =>
    obtain ⟨added, h⟩ := Stream.onlyRecords_drainFrom s.now s.stream.inbox.arrivals s.stream
    refine ⟨added, fun text => ?_⟩
    have hdrain := congrArg Prod.snd (h text)
    simp only at hdrain
    simp only [play, Stream.arm, Stream.drain, withTranscript, Stream.withTranscript] at hdrain ⊢
    rw [hdrain]
  | drain =>
    obtain ⟨added, h⟩ := Stream.onlyRecords_drainFrom s.now s.stream.inbox.arrivals s.stream
    refine ⟨added, fun text => ?_⟩
    have hdrain := congrArg Prod.snd (h text)
    simp only [play, Stream.drain, withTranscript, Stream.withTranscript] at hdrain ⊢
    rw [hdrain]
  | pump =>
    obtain ⟨added, h⟩ := Stream.pump?_withTranscript s.now s.stream
    cases hpump : s.stream.pump? s.now with
    | none =>
      refine ⟨"", fun text => ?_⟩
      rw [String.append_empty]
      simp only [play, withTranscript, h, hpump, Option.map_none]
    | some pumped =>
      refine ⟨added, fun text => ?_⟩
      simp only [play, withTranscript, h, hpump, Option.map_some]
  | nextLine =>
    obtain ⟨added, h⟩ := Stream.onlyRecords_nextLineFrom s.now s.stream.inbox.arrivals s.stream
    refine ⟨added, fun text => ?_⟩
    have hnext := h text
    simp only [play, Stream.nextLine, withTranscript, Stream.withTranscript] at hnext ⊢
    rw [hnext]
  | await wait timeout =>
    obtain ⟨added, h⟩ := Stream.onlyRecords_awaitFrom wait (s.now + timeout)
      s.stream.inbox.arrivals s.now s.stream
    refine ⟨added, fun text => ?_⟩
    have hawait := h text
    simp only [Prod.mk.injEq] at hawait
    obtain ⟨⟨houtcome, htime⟩, hstream⟩ := hawait
    have harrivals : (s.stream.withTranscript text).inbox.arrivals = s.stream.inbox.arrivals := rfl
    simp only [play, Stream.await, withTranscript]
    rw [harrivals, houtcome, htime, hstream]
    rfl

/-- No answer depends on the transcript, which only grows, and grows by the same text whatever it
was before. -/
theorem playAll_withTranscript (moves : List Move) (s : Scene) :
    ∃ added, ∀ text, playAll moves (s.withTranscript text) =
      ((playAll moves s).1, (playAll moves s).2.withTranscript (text ++ added)) := by
  induction moves generalizing s with
  | nil => exact ⟨"", fun text => by rw [String.append_empty]; rfl⟩
  | cons move moves ih =>
    obtain ⟨first, hfirst⟩ := play_withTranscript move s
    obtain ⟨added, hadded⟩ := ih (s.play move).2
    refine ⟨first ++ added, fun text => ?_⟩
    simp only [playAll, hfirst, hadded, String.append_assoc]
    rfl

end Scene

/-! ### What is left of the past -/

/-- A move after which the connection is as open as before: the device does not close it. -/
def Move.KeepsOpen : Move → Prop
  | .send _ .closed | .hangUp => False
  | _ => True

/-- A stream that is not closed, and to which no close is on its way. -/
structure Stream.IsOpen (s : Stream) : Prop where
  /-- The stream is not closed. -/
  closed : s.closed = false
  /-- The device has not hung up. -/
  hungUp : s.inbox.hungUp = false
  /-- No close is to come. -/
  arrivals : ∀ arrival ∈ s.inbox.arrivals, arrival.2 ≠ .closed

/-- The owner of an open stream leaves it open. -/
theorem Stream.Change.isOpen {s s' : Stream} (h : Change s s') (hs : s.IsOpen) : s'.IsOpen := by
  cases h with
  | @take time a rest hopen harrivals =>
    have ha : a ≠ .closed := hs.arrivals (time, a) (by rw [harrivals]; exact List.mem_cons_self)
    have hrest : ∀ arrival ∈ rest, arrival.2 ≠ .closed := fun arrival hmem =>
      hs.arrivals arrival (by rw [harrivals]; exact List.mem_cons_of_mem _ hmem)
    cases a with
    | data bytes => exact ⟨hs.closed, hs.hungUp, hrest⟩
    | closed => exact absurd rfl ha
  | close _ hup => rw [hs.hungUp] at hup; cases hup
  | pop _ => exact ⟨hs.closed, hs.hungUp, hs.arrivals⟩
  | rearm _ => exact ⟨hs.closed, hs.hungUp, hs.arrivals⟩

/-- An open stream stays open while the device does not close it. -/
theorem Scene.isOpen_play {s : Scene} {move : Move} (hmove : move.KeepsOpen)
    (hs : s.stream.IsOpen) : (s.play move).2.stream.IsOpen := by
  have howner : (∀ delay a, move ≠ .send delay a) → (s.play move).2.stream.IsOpen := by
    intro hsend
    refine (s.changes_play move hsend ?_).keep (fun h => h.isOpen) hs
    rintro rfl
    exact hmove
  cases move with
  | send delay a =>
    have ha : a ≠ .closed := by
      rintro rfl
      exact hmove
    refine ⟨hs.closed, ?_, ?_⟩
    · simp [play, Inbox.post, hs.hungUp]
    · intro arrival hmem
      simp only [play, Inbox.post, hs.hungUp, Bool.false_eq_true, if_false, mem_schedule] at hmem
      rcases hmem with rfl | hmem
      · exact ha
      · exact hs.arrivals arrival hmem
  | _ => exact howner (fun delay a h => by cases h)

/-- Draining an open stream to which everything has arrived leaves nothing to come. -/
theorem Stream.arrivals_drain {now : Nat} {s : Stream} (hs : s.IsOpen)
    (hdue : ∀ arrival ∈ s.inbox.arrivals, arrival.1 ≤ now) :
    (s.drain now).inbox.arrivals = [] := by
  suffices h : ∀ arrivals (s : Stream), s.closed = false →
      (∀ arrival ∈ arrivals, arrival.2 ≠ .closed ∧ arrival.1 ≤ now) →
      (drainFrom now arrivals s).inbox.arrivals = [] from
    h s.inbox.arrivals s hs.closed fun arrival hmem => ⟨hs.arrivals arrival hmem, hdue arrival hmem⟩
  intro arrivals
  induction arrivals with
  | nil => intro s _ _; rfl
  | cons arrival rest ih =>
    obtain ⟨time, a⟩ := arrival
    intro s hopen hall
    obtain ⟨ha, htime⟩ := hall (time, a) List.mem_cons_self
    rw [drainFrom, if_neg (by simp [hopen]), if_pos htime]
    refine ih (s.take a) ?_ fun arrival hmem => hall arrival (List.mem_cons_of_mem _ hmem)
    cases a with
    | data bytes => exact hopen
    | closed => exact absurd rfl ha

/-- What may come before a wait is armed at `now`: the device does not close the connection, and all
that it has sent has arrived by then. -/
structure Prelude (now : Nat) (moves : List Move) : Prop where
  /-- The connection stays open. -/
  keepsOpen : ∀ move ∈ moves, move.KeepsOpen
  /-- The moves end at `now`. -/
  time : (Scene.playAll moves {}).2.now = now
  /-- All that was sent has arrived. -/
  arrived : ∀ arrival ∈ (Scene.playAll moves {}).2.stream.inbox.arrivals, arrival.1 ≤ now

namespace Scene

/-- The scene in which a wait is armed after some moves. -/
def armedAfter (moves : List Move) : Scene := ((playAll moves {}).2.play .arm).2

/-- What has been recorded when a wait is armed after some moves. -/
def recorded (moves : List Move) : String := (armedAfter moves).stream.transcript

/-- When a wait is armed, nothing is left of the past but the transcript and its unfinished line. -/
theorem arm_prelude {now : Nat} {moves : List Move} (h : Prelude now moves) :
    armedAfter moves =
      { now
        stream :=
          { splitter := { pending := unfinished (recorded moves) }
            transcript := recorded moves
            armed := true } } := by
  have hopen : (playAll moves {}).2.stream.IsOpen :=
    keep_playAll (P := fun s => s.stream.IsOpen) (fun s move hmove hs =>
      isOpen_play (h.keepsOpen move hmove) hs) ⟨rfl, rfl, fun _ hmem => absurd hmem (by simp)⟩
  have hpending := pending_playAll (.arm :: []) (s := (playAll moves {}).2)
    (pending_playAll moves rfl)
  have hdrained : ((playAll moves {}).2.stream.drain now).IsOpen :=
    (Stream.changes_drain now _).keep (fun h => h.isOpen) hopen
  have hnone := Stream.arrivals_drain hopen h.arrived
  have hscene : armedAfter moves =
      { now
        stream := { (playAll moves {}).2.stream.drain now with lines := [], armed := true } } := by
    rw [armedAfter, play, Stream.arm, h.time]
  have hrecorded : recorded moves = ((playAll moves {}).2.stream.drain now).transcript := by
    rw [recorded, hscene]
  have hrest : ((playAll moves {}).2.stream.drain now).splitter.pending =
      unfinished (recorded moves) := by
    simpa only [playAll, play, Stream.arm, h.time, hrecorded] using hpending
  rw [hscene]
  rw [← hrest, hrecorded]
  -- The other parts of the drained stream are those of a stream to which nothing has happened.
  generalize (playAll moves {}).2.stream.drain now = s at hdrained hnone
  obtain ⟨⟨arrivals, hungUp⟩, ⟨pending⟩, lines, transcript, armed, closed⟩ := s
  obtain ⟨hclosed, hhungUp, -⟩ := hdrained
  simp only at hclosed hhungUp hnone
  rw [hclosed, hhungUp, hnone]

/-- A line end shows the unfinished line. -/
theorem answers_lineEnd {now : Nat} {moves : List Move} (h : Prelude now moves) :
    (playAll [.send 0 (.data [13, 10]), .nextLine] (armedAfter moves)).1 =
      [(now, .nothing), (now, .next (.line (unfinished (recorded moves))))] := by
  have htext : Text.Utf8.text [13, 10] = String.ofList ['\r', '\n'] := rfl
  have hpush : (Splitter.push (Text.Utf8.text [13, 10])
      { pending := unfinished (recorded moves) }).1 = [unfinished (recorded moves)] := by
    simp only [Splitter.push, unfinished, htext, String.toList_ofList]
    rw [cutLines_lineEnd]
    rfl
  rw [arm_prelude h]
  simp [playAll, play, Inbox.post, schedule, Stream.nextLine, Stream.nextLineFrom, Stream.take,
    hpush]

end Scene

open Scene

/-- Two pasts lead to the same answers, whatever comes later, exactly when they leave the same
unfinished line; and then the transcripts grow by the same text. -/
theorem answers_eq_iff_unfinished_eq {now : Nat} {before before' : List Move}
    (h : Prelude now before) (h' : Prelude now before') :
    ((∀ later, (playAll later (armedAfter before)).1 = (playAll later (armedAfter before')).1) ↔
        unfinished (recorded before) = unfinished (recorded before')) ∧
      (unfinished (recorded before) = unfinished (recorded before') → ∀ later, ∃ added,
        (playAll later (armedAfter before)).2.stream.transcript = recorded before ++ added ∧
          (playAll later (armedAfter before')).2.stream.transcript =
            recorded before' ++ added) := by
  -- With the same unfinished line, the two scenes differ in their transcripts only.
  have hsame (heq : unfinished (recorded before) = unfinished (recorded before')) :
      armedAfter before' = (armedAfter before).withTranscript (recorded before') := by
    rw [arm_prelude h, arm_prelude h', ← heq]
    rfl
  have hself : armedAfter before = (armedAfter before).withTranscript (recorded before) := rfl
  refine ⟨⟨fun hall => ?_, fun heq later => ?_⟩, fun heq later => ?_⟩
  · -- A line end that comes later shows what was left unfinished.
    have hline := hall [.send 0 (.data [13, 10]), .nextLine]
    rw [answers_lineEnd h, answers_lineEnd h'] at hline
    simpa using hline
  · obtain ⟨added, hadded⟩ := playAll_withTranscript later (armedAfter before)
    rw [hsame heq, hadded]
  · obtain ⟨added, hadded⟩ := playAll_withTranscript later (armedAfter before)
    refine ⟨added, ?_, ?_⟩
    · rw [hself, hadded]
      rfl
    · rw [hsame heq, hadded]
      rfl

/-- A wait that ran out leaves no trace, nor does a whole line that comes too late for it. -/
theorem late_line_hidden :
    Prelude 200 [.arm, .await (.count 1) 200] ∧
      Prelude 200 [.arm, .await (.count 1) 200, .send 0 (.data [79, 75, 13, 10]), .pump] ∧
      ∀ later, (playAll later (armedAfter [.arm, .await (.count 1) 200])).1 =
        (playAll later (armedAfter
          [.arm, .await (.count 1) 200, .send 0 (.data [79, 75, 13, 10]), .pump])).1 := by
  have hnone : Prelude 200 [.arm, .await (.count 1) 200] :=
    ⟨by simp [Move.KeepsOpen], by decide, by decide⟩
  have hlate : Prelude 200 [.arm, .await (.count 1) 200, .send 0 (.data [79, 75, 13, 10]), .pump] :=
    ⟨by simp [Move.KeepsOpen], by decide, by decide⟩
  exact ⟨hnone, hlate, (answers_eq_iff_unfinished_eq hnone hlate).1.2 (by decide)⟩

/-- The start of a reply that comes too late for one wait is seen by the next one: it becomes the
start of its first line. -/
theorem late_start_seen :
    ¬ ∀ (now : Nat) (before before' : List Move), Prelude now before → Prelude now before' →
      ∀ later, (playAll later (armedAfter before)).1 = (playAll later (armedAfter before')).1 := by
  intro h
  have hanswers := h 200 [.arm, .await (.count 1) 200]
    [.arm, .await (.count 1) 200, .send 0 (.data [82, 69, 65])]
    ⟨by simp [Move.KeepsOpen], by decide, by decide⟩
    ⟨by simp [Move.KeepsOpen], by decide, by decide⟩
    [.send 0 (.data [68, 89, 13, 10]), .await (.count 1) 1000]
  exact absurd hanswers (by decide)

end BringUp.Reply
