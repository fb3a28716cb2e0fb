import BringUp.Proofs.Reply.Moves
import BringUp.Trace

/-!
# What a stream records

A stream records all that it takes, and nothing else. Beside the stream stands an inbox into which
the device sends the same, but from which nobody takes anything: what has been taken is the front of
it, and what is still to come is the rest. The transcript is the text of the front. It is spelled by
the lines that the splitter has given and the unfinished line.

* `Splitter.pushAll`: the lines that arrivals complete.
* `Stream.Follows`: what a stream has taken of all that was sent.
* `Scene.transcript_playAll`: whatever is done with a stream, its transcript is the text of what has
  been taken.
* `Stream.Follows.transcript_drain`: a stream that is drained holds all that the device has said.
-/

namespace BringUp.Reply

/-! ### Chunks among arrivals -/

/-- Adds the chunks among arrivals, one after the other: the lines that they complete, and the
splitter after them. -/
def Splitter.pushAll : List (Nat × Arrival) → Splitter → List String × Splitter
  | [], s => ([], s)
  | (_, .closed) :: rest, s => s.pushAll rest
  | (_, .data bytes) :: rest, s =>
    let (lines, s) := s.push (Text.Utf8.text bytes)
    let (more, s) := s.pushAll rest
    (lines ++ more, s)

namespace Splitter

/-- The texts of the chunks among arrivals. -/
def chunksOf (arrivals : List (Nat × Arrival)) : List String :=
  arrivals.filterMap fun
    | (_, .data bytes) => some (Text.Utf8.text bytes)
    | (_, .closed) => none

/-- The chunks have the text of the arrivals. -/
theorem join_chunksOf (arrivals : List (Nat × Arrival)) :
    String.join (chunksOf arrivals) = textOf arrivals := by
  induction arrivals with
  | nil => rfl
  | cons arrival rest ih =>
    obtain ⟨time, a⟩ := arrival
    cases a with
    | closed => simpa [chunksOf, Arrival.text] using ih
    | data bytes => simpa [chunksOf, Arrival.text, String.join_cons] using ih

/-- Arrivals are chunks that are given one after the other. -/
theorem pushAll_eq_pushEach (arrivals : List (Nat × Arrival)) (s : Splitter) :
    s.pushAll arrivals = s.pushEach (chunksOf arrivals) := by
  induction arrivals generalizing s with
  | nil => rfl
  | cons arrival rest ih =>
    obtain ⟨time, a⟩ := arrival
    cases a with
    | closed => exact ih s
    | data bytes =>
      simp only [pushAll, ih]
      rfl

theorem pushAll_append (arrivals more : List (Nat × Arrival)) (s : Splitter) :
    s.pushAll (arrivals ++ more) =
      ((s.pushAll arrivals).1 ++ ((s.pushAll arrivals).2.pushAll more).1,
        ((s.pushAll arrivals).2.pushAll more).2) := by
  simp only [pushAll_eq_pushEach, chunksOf, List.filterMap_append, pushEach_append]

/-- A splitter that holds the unfinished line of a text is given chunks: it gives the lines that
become whole, and holds the unfinished line of the longer text. -/
theorem pushAll_eq (arrivals : List (Nat × Arrival)) (text : String) {s : Splitter}
    (hs : s.pending = unfinished text) :
    wholeLines (text ++ textOf arrivals) = wholeLines text ++ (s.pushAll arrivals).1 ∧
      (s.pushAll arrivals).2.pending = unfinished (text ++ textOf arrivals) := by
  have hpush : s.pushAll arrivals = s.push (textOf arrivals) := by
    rw [pushAll_eq_pushEach, pushEach_eq_push _ (by rw [hs, wholeLines_unfinished]), join_chunksOf]
  rw [hpush, lines_push, pending_push, hs]
  exact ⟨wholeLines_append text _, (unfinished_append text _).symm⟩

/-- A splitter that holds nothing is given chunks: the lines that it gives, each with its end, and
its unfinished line spell their text. -/
theorem spell_pushAll (arrivals : List (Nat × Arrival)) {s : Splitter} (hs : s.pending = "") :
    textOf arrivals = String.join ((s.pushAll arrivals).1.map (· ++ lineEnd)) ++
      (s.pushAll arrivals).2.pending := by
  obtain ⟨hwhole, hpending⟩ := pushAll_eq arrivals "" hs
  rw [String.empty_append] at hwhole hpending
  have hlines : wholeLines (textOf arrivals) = (s.pushAll arrivals).1 := hwhole
  rw [← hlines, hpending, join_wholeLines]

end Splitter

namespace Stream.Takes

variable {now : Nat} {s s' : Stream} {taken : List (Nat × Arrival)}

/-- The splitter is given what is taken, and keeps the unfinished line of it. -/
theorem splitter_eq (h : Takes now s taken s') : s'.splitter = (s.splitter.pushAll taken).2 := by
  induction h with
  | stop s => rfl
  | close _ _ => rfl
  | @take s s' time a rest taken _ _ _ _ ih =>
    cases a with
    | closed => exact ih
    | data bytes => exact ih

/-- The lines that become whole are queued while a wait is armed. -/
theorem lines_eq (h : Takes now s taken s') :
    s'.lines = if s.armed then s.lines ++ (s.splitter.pushAll taken).1 else s.lines := by
  induction h with
  | stop s => simp [Splitter.pushAll]
  | close _ _ => simp [Splitter.pushAll]
  | @take s s' time a rest taken _ _ _ _ ih =>
    rw [ih]
    cases a with
    | closed => rfl
    | data bytes =>
      cases harmed : s.armed with
      | false => simp [Stream.take, withArrivals, harmed]
      | true => simp [Stream.take, withArrivals, harmed, Splitter.pushAll]

/-- Behind a close nothing is taken, and it closes the stream. -/
theorem closed_last (h : Takes now s taken s') {before after : List (Nat × Arrival)} {time : Nat}
    (htaken : taken = before ++ (time, .closed) :: after) : after = [] ∧ s'.closed = true := by
  induction h generalizing before with
  | stop s => simp at htaken
  | close _ _ => simp at htaken
  | @take s s' time a rest taken hopen harrivals _ htail ih =>
    cases before with
    | cons head before => exact ih (List.cons.inj htaken).2
    | nil =>
      obtain ⟨hhead, rfl⟩ := List.cons.inj htaken
      obtain rfl : a = .closed := congrArg Prod.snd hhead
      exact ⟨htail.eq_nil_of_closed rfl, htail.closed_of_closed rfl⟩

/-- A stream that becomes closed has taken a close, or all there was from a device that has hung
up. -/
theorem closed_cases (h : Takes now s taken s') (hopen : s.closed = false)
    (hclosed : s'.closed = true) : (∃ before time, taken = before ++ [(time, .closed)]) ∨
      s'.inbox.hungUp = true ∧ s'.inbox.arrivals = [] := by
  induction h with
  | stop s => rw [hopen] at hclosed; cases hclosed
  | close hnone hup => exact .inr ⟨hup, hnone⟩
  | @take s s' time a rest taken _ harrivals _ htail ih =>
    cases a with
    | closed => exact .inl ⟨[], time, by rw [htail.eq_nil_of_closed rfl]; rfl⟩
    | data bytes =>
      rcases ih hopen hclosed with ⟨before, last, rfl⟩ | hended
      · exact .inl ⟨_ :: before, last, rfl⟩
      · exact .inr hended

end Stream.Takes

/-! ### All that was sent -/

/-- What comes earlier than something that is sent stays before it. -/
theorem schedule_append {due : Nat} {a : Arrival} {taken : List (Nat × Arrival)}
    (h : ∀ arrival ∈ taken, arrival.1 ≤ due) (rest : List (Nat × Arrival)) :
    schedule due a (taken ++ rest) = taken ++ schedule due a rest := by
  induction taken with
  | nil => rfl
  | cons arrival taken ih =>
    obtain ⟨time, b⟩ := arrival
    obtain ⟨hle, htaken⟩ := List.forall_mem_cons.1 h
    rw [List.cons_append, schedule, if_pos hle, ih htaken, List.cons_append]

/-- Arrivals in the order of their times. -/
def InTimeOrder (arrivals : List (Nat × Arrival)) : Prop :=
  arrivals.Pairwise fun first second => first.1 ≤ second.1

/-- What is sent comes in the order of the times. -/
theorem InTimeOrder.schedule {arrivals : List (Nat × Arrival)} (h : InTimeOrder arrivals)
    (due : Nat) (a : Arrival) : InTimeOrder (schedule due a arrivals) := by
  induction arrivals with
  | nil => exact List.pairwise_singleton _ _
  | cons head rest ih =>
    obtain ⟨time, b⟩ := head
    obtain ⟨hhead, hrest⟩ := List.pairwise_cons.1 h
    rw [Reply.schedule]
    split
    · rename_i hle
      refine List.pairwise_cons.2 ⟨fun arrival hmem => ?_, ih hrest⟩
      rcases mem_schedule.1 hmem with rfl | hmem
      · exact hle
      · exact hhead arrival hmem
    · rename_i hlt
      refine List.pairwise_cons.2 ⟨fun arrival hmem => ?_, h⟩
      rcases List.mem_cons.1 hmem with rfl | hmem
      · exact Nat.le_of_not_le hlt
      · exact Nat.le_trans (Nat.le_of_not_le hlt) (hhead arrival hmem)

namespace Stream

/-- Of all that was sent to a stream, in the order in which it arrives, these arrivals have been
taken by the time `now`. -/
structure Follows (sent : Inbox) (taken : List (Nat × Arrival)) (now : Nat) (s : Stream) :
    Prop where
  /-- They are the front of what was sent, and the rest is still to come. -/
  arrivals : sent.arrivals = taken ++ s.inbox.arrivals
  /-- The device has hung up or not. -/
  hungUp : s.inbox.hungUp = sent.hungUp
  /-- What was sent is in the order of the times. -/
  order : InTimeOrder sent.arrivals
  /-- What has been taken has arrived. -/
  arrived : ∀ arrival ∈ taken, arrival.1 ≤ now
  /-- The transcript is the text of what has been taken. -/
  transcript : s.transcript = textOf taken
  /-- The splitter has been given what has been taken. -/
  splitter : s.splitter = (({} : Splitter).pushAll taken).2
  /-- Nothing has been taken behind a close. -/
  last : ∀ before time after, taken = before ++ (time, .closed) :: after →
    after = [] ∧ s.closed = true
  /-- A closed stream has taken a close, or all there was from a device that has hung up. -/
  closed : s.closed = true → (∃ before time, taken = before ++ [(time, .closed)]) ∨
    sent.hungUp = true ∧ s.inbox.arrivals = []

namespace Follows

variable {sent : Inbox} {taken more : List (Nat × Arrival)} {now time : Nat} {s s' : Stream}

/-- A new stream has taken nothing. -/
theorem new (now : Nat) : Follows {} [] now {} where
  arrivals := rfl
  hungUp := rfl
  order := List.Pairwise.nil
  arrived := by simp
  transcript := rfl
  splitter := rfl
  last := by simp
  closed := nofun

/-- The queue and the wait do not matter to what has been taken. -/
theorem withQueue (h : Follows sent taken now s) (lines : List String) (armed : Bool) :
    Follows sent taken now { s with lines, armed } :=
  ⟨h.arrivals, h.hungUp, h.order, h.arrived, h.transcript, h.splitter, h.last, h.closed⟩

/-- Time passes. -/
theorem mono (h : Follows sent taken now s) (hle : now ≤ time) : Follows sent taken time s :=
  { h with arrived := fun arrival hmem => Nat.le_trans (h.arrived arrival hmem) hle }

/-- The device sends something, which is due behind all that has been taken. -/
theorem post (h : Follows sent taken now s) (delay : Nat) (a : Arrival) :
    Follows (sent.post now delay a) taken now { s with inbox := s.inbox.post now delay a } := by
  unfold Inbox.post
  rw [h.hungUp]
  split
  · exact h
  · rename_i hup
    have hdue : ∀ arrival ∈ taken, arrival.1 ≤ now + delay := fun arrival hmem =>
      Nat.le_trans (h.arrived arrival hmem) (Nat.le_add_right now delay)
    exact
      { h with
        arrivals := by rw [h.arrivals, schedule_append hdue]
        hungUp := rfl
        order := h.order.schedule _ _
        closed := fun hclosed => (h.closed hclosed).imp_right fun hended => absurd hended.1 hup }

/-- The device hangs up. -/
theorem hangUp (h : Follows sent taken now s) :
    Follows sent.hangUp taken now { s with inbox := s.inbox.hangUp } :=
  { h with
    hungUp := rfl
    closed := fun hclosed => (h.closed hclosed).imp_right fun hended => ⟨rfl, hended.2⟩ }

/-- More is taken. -/
theorem takes (h : Follows sent taken now s) (ht : Takes time s more s') (hle : now ≤ time) :
    Follows sent (taken ++ more) time s' where
  arrivals := by rw [h.arrivals, ht.arrivals_eq, List.append_assoc]
  hungUp := by rw [ht.hungUp_eq, h.hungUp]
  order := h.order
  arrived arrival hmem := by
    rcases List.mem_append.1 hmem with hmem | hmem
    · exact Nat.le_trans (h.arrived arrival hmem) hle
    · exact ht.time_le arrival hmem
  transcript := by rw [ht.transcript_eq, h.transcript, textOf_append]
  splitter := by rw [ht.splitter_eq, h.splitter, Splitter.pushAll_append]
  last before due after heq := by
    rcases List.append_eq_append_iff.1 heq with ⟨middle, rfl, hmore⟩ | ⟨middle, htaken, hrest⟩
    · exact ht.closed_last hmore
    · cases middle with
      | nil =>
        have hmore : more = [] ++ (due, .closed) :: after := hrest.symm
        exact ht.closed_last hmore
      | cons head middle =>
        -- The close was taken before, so that nothing could be taken since.
        obtain ⟨rfl, hafter⟩ := List.cons.inj hrest
        obtain ⟨rfl, hclosed⟩ := h.last before due middle htaken
        exact ⟨by rw [hafter, ht.eq_nil_of_closed hclosed]; rfl, ht.closed_of_closed hclosed⟩
  closed hclosed := by
    cases hbefore : s.closed with
    | false =>
      rcases ht.closed_cases hbefore hclosed with ⟨before, due, rfl⟩ | ⟨hup, hnone⟩
      · exact .inl ⟨taken ++ before, due, (List.append_assoc _ _ _).symm⟩
      · exact .inr ⟨by rw [← h.hungUp, ← ht.hungUp_eq, hup], hnone⟩
    | true =>
      have hnone := ht.eq_nil_of_closed hbefore
      rcases h.closed hbefore with hlast | ⟨hup, harrivals⟩
      · rw [hnone, List.append_nil]
        exact .inl hlast
      · have hsame := ht.arrivals_eq
        rw [hnone, List.nil_append, harrivals] at hsame
        exact .inr ⟨hup, hsame.symm⟩

end Follows

end Stream

namespace Scene

/-- What has been sent after moves: an inbox that the device fills and from which nobody takes. -/
def sentFrom : List Move → Scene → Inbox → Inbox
  | [], _, sent => sent
  | move :: moves, s, sent => sentFrom moves (s.play move).2 (move.sends s.now sent)

/-- All that is sent to a new stream while moves are made, in the order in which it arrives. -/
def sent (moves : List Move) : List (Nat × Arrival) := (sentFrom moves {} {}).arrivals

theorem playAll_append (moves later : List Move) (s : Scene) :
    playAll (moves ++ later) s =
      ((playAll moves s).1 ++ (playAll later (playAll moves s).2).1,
        (playAll later (playAll moves s).2).2) := by
  induction moves generalizing s with
  | nil => rfl
  | cons move moves ih => simp only [List.cons_append, playAll, ih]

theorem sentFrom_append (moves later : List Move) (s : Scene) (before : Inbox) :
    sentFrom (moves ++ later) s before =
      sentFrom later (playAll moves s).2 (sentFrom moves s before) := by
  induction moves generalizing s before with
  | nil => rfl
  | cons move moves ih => exact ih (s.play move).2 (move.sends s.now before)

variable {before : Inbox} {taken more : List (Nat × Arrival)} {middle : Stream} {s : Scene}

/-- The device does its part of a move. -/
theorem follows_fed (h : s.stream.Follows before taken s.now) (move : Move) :
    (s.fed move).Follows (move.sends s.now before) taken s.now := by
  cases move with
  | send delay a => exact h.post delay a
  | hangUp => exact h.hangUp
  | pass _ | arm | disarm | drain | pump | nextLine | await _ _ => exact h

/-- What a move takes is the next of what was sent. -/
theorem follows_play (h : s.stream.Follows before taken s.now) {move : Move}
    (ht : Stream.Takes (s.play move).2.now (s.fed move) more middle)
    (hd : move.Deals middle (s.play move).1 (s.play move).2.stream) :
    (s.play move).2.stream.Follows (move.sends s.now before) (taken ++ more)
      (s.play move).2.now := by
  rw [hd.eq_withQueue]
  exact ((follows_fed h move).takes ht (s.now_le_play move)).withQueue _ _

/-- Moves take what was sent, from the front. From a closed stream nothing is taken. -/
theorem follows_playAll (moves : List Move) (h : s.stream.Follows before taken s.now) :
    ∃ more, (playAll moves s).2.stream.Follows (sentFrom moves s before) (taken ++ more)
        (playAll moves s).2.now ∧
      (s.stream.closed = true → more = [] ∧ (playAll moves s).2.stream.closed = true) := by
  induction moves generalizing s before taken with
  | nil => exact ⟨[], by rwa [List.append_nil], fun hclosed => ⟨rfl, hclosed⟩⟩
  | cons move moves ih =>
    obtain ⟨first, middle, hfirst, hdeals⟩ := s.takes_play move
    obtain ⟨more, hmore, hclosed⟩ := ih (follows_play h hfirst hdeals)
    refine ⟨first ++ more, by rwa [← List.append_assoc], fun hs => ?_⟩
    obtain rfl : first = [] := hfirst.eq_nil_of_closed hs
    refine hclosed ?_
    rw [hdeals.eq_withQueue]
    exact hfirst.closed_of_closed hs

/-- Whatever is sent to a stream and whatever its owner does with it, its transcript is at every
moment the text of what has been taken from the front of what was sent, and is spelled by the lines
that the splitter has given so far and its unfinished line. Later on it only grows by the text of
what is taken next, and disarming adds nothing. Once the stream is closed nothing is taken, and
nothing is taken behind a close. -/
theorem transcript_playAll (moves later : List Move) :
    let s := (playAll moves {}).2.stream
    let s' := (playAll (moves ++ later) {}).2.stream
    ∃ taken more,
      sent moves = taken ++ s.inbox.arrivals ∧
      sent (moves ++ later) = taken ++ more ++ s'.inbox.arrivals ∧
      s.transcript = textOf taken ∧
      s'.transcript = s.transcript ++ textOf more ∧
      s.transcript = String.join ((({} : Splitter).pushAll taken).1.map (· ++ lineEnd)) ++
        s.splitter.pending ∧
      s.disarm.transcript = s.transcript ∧
      (s.closed = true → more = [] ∧ s'.closed = true) ∧
      ∀ before time after, taken = before ++ (time, .closed) :: after → after = [] := by
  have hnew : ({} : Scene).stream.Follows {} [] ({} : Scene).now := Stream.Follows.new 0
  obtain ⟨taken, htaken, -⟩ := follows_playAll moves hnew
  obtain ⟨more, hmore, hclosed⟩ := follows_playAll later htaken
  rw [List.nil_append] at htaken hmore
  rw [← sentFrom_append] at hmore
  have hlater : (playAll later (playAll moves {}).2).2 = (playAll (moves ++ later) {}).2 := by
    rw [playAll_append]
  rw [hlater] at hmore hclosed
  intro s s'
  refine ⟨taken, more, htaken.arrivals, hmore.arrivals, htaken.transcript, ?_, ?_, rfl, hclosed, ?_⟩
  · rw [hmore.transcript, htaken.transcript, textOf_append]
  · rw [htaken.transcript, htaken.splitter]
    exact ({} : Splitter).spell_pushAll taken rfl
  · exact fun before time after htaken' => (htaken.last before time after htaken').1

end Scene

/-! ### Taking all that has arrived -/

/-- What a device has said by the time `now`: all that has arrived, up to the first close. -/
def Inbox.heard (now : Nat) (i : Inbox) : List (Nat × Arrival) :=
  (i.arrivals.filter (·.1 ≤ now)).takeWhile (·.2 ≠ .closed)

namespace Stream

theorem spent_drainFrom (now : Nat) (arrivals : List (Nat × Arrival)) (s : Stream) :
    (drainFrom now arrivals s).closed = true ∨
      ∀ arrival ∈ (drainFrom now arrivals s).inbox.arrivals.head?, now < arrival.1 := by
  induction arrivals generalizing s with
  | nil =>
    rw [drainFrom]
    exact .inr (by simp [exhaust, withArrivals])
  | cons arrival rest ih =>
    obtain ⟨time, a⟩ := arrival
    rw [drainFrom]
    split_ifs with hclosed hdue
    · exact .inl hclosed
    · exact ih (s.take a)
    · refine .inr fun arrival hmem => ?_
      obtain rfl : (time, a) = arrival := by simpa [withArrivals] using hmem
      exact Nat.lt_of_not_le hdue

/-- Draining goes on until the stream is closed, or nothing more has arrived. -/
theorem spent_drain (now : Nat) (s : Stream) : (s.drain now).closed = true ∨
    ∀ arrival ∈ (s.drain now).inbox.arrivals.head?, now < arrival.1 :=
  spent_drainFrom now s.inbox.arrivals s

namespace Follows

variable {sent : Inbox} {taken : List (Nat × Arrival)} {now time : Nat} {s : Stream}

/-- A close is the last arrival that is taken. -/
theorem eq_append_closed (h : Follows sent taken now s) {arrival : Nat × Arrival}
    (hmem : arrival ∈ taken) (hclosed : arrival.2 = .closed) :
    ∃ before, taken = before ++ [(arrival.1, .closed)] := by
  obtain ⟨before, after, rfl⟩ := List.append_of_mem hmem
  obtain ⟨due, a⟩ := arrival
  obtain rfl : a = .closed := hclosed
  obtain ⟨rfl, -⟩ := h.last before due after rfl
  exact ⟨before, rfl⟩

/-- Behind an arrival that is not due, none is. -/
theorem filter_eq_nil (h : Follows sent taken now s)
    (hlater : ∀ arrival ∈ s.inbox.arrivals.head?, now < arrival.1) :
    s.inbox.arrivals.filter (·.1 ≤ now) = [] := by
  have horder : InTimeOrder s.inbox.arrivals :=
    (List.pairwise_append.1 (h.arrivals ▸ h.order)).2.1
  rw [List.filter_eq_nil_iff]
  intro arrival hmem
  cases harrivals : s.inbox.arrivals with
  | nil =>
    rw [harrivals] at hmem
    cases hmem
  | cons first rest =>
    rw [harrivals] at hmem horder hlater
    have hfirst : now < first.1 := hlater first rfl
    rcases List.mem_cons.1 hmem with rfl | hmem
    · simpa using hfirst
    · have hle : first.1 ≤ arrival.1 := (List.pairwise_cons.1 horder).1 arrival hmem
      simpa using Nat.lt_of_lt_of_le hfirst hle

/-- What was taken is what the device has said, if nothing more can be taken. -/
theorem textOf_heard (h : Follows sent taken now s)
    (hspent : s.closed = true ∨ ∀ arrival ∈ s.inbox.arrivals.head?, now < arrival.1) :
    textOf (sent.heard now) = textOf taken := by
  have hdue : taken.filter (·.1 ≤ now) = taken :=
    List.filter_eq_self.2 fun arrival hmem => decide_eq_true (h.arrived arrival hmem)
  rw [Inbox.heard, h.arrivals, List.filter_append, hdue]
  by_cases hlast : ∃ arrival ∈ taken, arrival.2 = .closed
  · -- A close was taken, and it ends both.
    obtain ⟨arrival, hmem, hclosed⟩ := hlast
    obtain ⟨before, rfl⟩ := h.eq_append_closed hmem hclosed
    have hdata : ∀ earlier ∈ before, decide (earlier.2 ≠ .closed) = true := by
      intro earlier hearlier
      refine decide_eq_true fun hclosed' => ?_
      obtain ⟨front, back, rfl⟩ := List.append_of_mem hearlier
      obtain ⟨due, a⟩ := earlier
      obtain rfl : a = .closed := hclosed'
      have hend := (h.last front due (back ++ [(arrival.1, .closed)]) (by simp)).1
      simp at hend
    rw [List.append_assoc, List.takeWhile_append_of_pos hdata]
    simp [Arrival.text]
  · -- No close was taken, so the stream took all that is due.
    have hdata : ∀ arrival ∈ taken, decide (arrival.2 ≠ .closed) = true := fun arrival hmem =>
      decide_eq_true fun hclosed => hlast ⟨arrival, hmem, hclosed⟩
    have hrest : s.inbox.arrivals.filter (·.1 ≤ now) = [] := by
      rcases hspent with hclosed | hlater
      · rcases h.closed hclosed with ⟨before, time, rfl⟩ | ⟨-, hempty⟩
        · exact absurd ⟨(time, .closed), by simp, rfl⟩ hlast
        · rw [hempty]
          rfl
      · exact h.filter_eq_nil hlater
    rw [List.takeWhile_append_of_pos hdata, hrest]
    simp

/-- Draining leaves the text of all that the device has said by then. -/
theorem transcript_drain (h : Follows sent taken now s) (hle : now ≤ time) :
    (s.drain time).transcript = textOf (sent.heard time) := by
  obtain ⟨more, hmore⟩ := s.takes_drain time
  have hafter := h.takes hmore hle
  rw [hafter.textOf_heard (s.spent_drain time), hafter.transcript]

end Follows

end Stream

end BringUp.Reply
