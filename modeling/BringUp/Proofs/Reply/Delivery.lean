import BringUp.Proofs.Reply.Isolation
import BringUp.Proofs.Reply.Record

/-!
# Which lines a wait is given

Between arming a wait and its end, every line that becomes whole is queued, and leaves the queue
from its front when the owner asks for a line. So what has been returned and what is queued are
together the lines that have become whole since the wait was armed.

* `Answer.line?`, `returned`: the lines that the owner was given.
* `Stream.Delivers`: what has been returned since a wait was armed, and what is still queued.
* `Scene.lines_since_arm`: whatever is done, lines are queued for an armed wait only, and none of
  them is lost, repeated or moved.
-/

namespace BringUp.Reply

/-- The line that an answer hands out. -/
def Answer.line? : Answer → Option String
  | .next (.line text) => some text
  | .next .ended | .next .pending | .nothing | .pumped _ | .awaited _ => none

/-- The lines that answers hand out. -/
def returned (answers : List (Nat × Answer)) : List String :=
  answers.filterMap fun answer => answer.2.line?

theorem returned_cons (time : Nat) (answer : Answer) (answers : List (Nat × Answer)) :
    returned ((time, answer) :: answers) = answer.line?.toList ++ returned answers := by
  cases h : answer.line? <;> simp [returned, h]

namespace Stream

/-- A queue that is empty while no wait is armed. -/
def QueuesForWait (s : Stream) : Prop := s.armed = false → s.lines = []

/-- Since a wait was armed, with this splitter, these arrivals have been taken and these lines
returned: as long as it is armed, the lines that were returned and those that are queued are the
lines that have become whole. -/
structure Delivers (start : Splitter) (since : List (Nat × Arrival)) (given : List String)
    (s : Stream) : Prop where
  /-- The splitter has been given what was taken. -/
  splitter : s.splitter = (start.pushAll since).2
  /-- No line is lost, repeated or moved. -/
  lines : s.armed = true → given ++ s.lines = (start.pushAll since).1

section

variable {now : Nat} {s s' : Stream} {taken since : List (Nat × Arrival)} {start : Splitter}
  {given : List String}

/-- While no wait is armed, nothing that is taken is queued. -/
theorem QueuesForWait.takes (h : s.QueuesForWait) (ht : Takes now s taken s') :
    s'.QueuesForWait := by
  intro hidle
  rw [ht.armed_eq] at hidle
  rw [ht.lines_eq, hidle, if_neg Bool.false_ne_true, h hidle]

/-- The lines that what is taken completes are queued behind the others. -/
theorem Delivers.takes (h : s.Delivers start since given) (ht : Takes now s taken s') :
    s'.Delivers start (since ++ taken) given where
  splitter := by rw [ht.splitter_eq, h.splitter, Splitter.pushAll_append]
  lines harmed := by
    rw [ht.armed_eq] at harmed
    rw [ht.lines_eq, if_pos harmed, ← List.append_assoc, h.lines harmed, h.splitter,
      Splitter.pushAll_append]

end

end Stream

/-- When more is taken from a stream, its splitter gives the lines that become whole. -/
theorem Stream.Follows.wholeLines_append {sent : Inbox} {taken : List (Nat × Arrival)} {now : Nat}
    {s : Stream} (h : s.Follows sent taken now) (since : List (Nat × Arrival)) :
    wholeLines (textOf (taken ++ since)) =
      wholeLines (textOf taken) ++ (s.splitter.pushAll since).1 := by
  have hpending : s.splitter.pending = unfinished (textOf taken) := by
    have hnew := (({} : Splitter).pushAll_eq taken "" rfl).2
    rwa [String.empty_append, ← h.splitter] at hnew
  rw [textOf_append, (s.splitter.pushAll_eq since _ hpending).1]

namespace Move.Deals

variable {move : Move} {answer : Answer} {s s' : Stream} {since : List (Nat × Arrival)}
  {start : Splitter} {given : List String}

/-- Nothing is left in the queue when a wait ends, and nothing is put into it by the owner. -/
theorem queuesForWait (h : move.Deals s answer s') (hs : s.QueuesForWait) : s'.QueuesForWait := by
  cases move with
  | arm =>
    rw [h.2]
    nofun
  | disarm | await _ _ =>
    rw [h.2]
    exact fun _ => rfl
  | nextLine =>
    obtain ⟨line, -, hgives⟩ := h
    cases line with
    | line text =>
      -- A line was queued, so a wait is armed.
      obtain ⟨hlines, hafter⟩ := hgives
      intro hidle
      rw [hafter] at hidle
      rw [hs hidle] at hlines
      cases hlines
    | ended => rwa [hgives.1]
    | pending => rwa [hgives.1]
  | send _ _ | hangUp | pass _ | drain | pump => rwa [h.2]

/-- A line leaves the queue from its front when it is returned. -/
theorem delivers (h : move.Deals s answer s') (harm : move ≠ .arm)
    (hs : s.Delivers start since given) :
    s'.Delivers start since (given ++ answer.line?.toList) := by
  cases move with
  | arm => exact absurd rfl harm
  | disarm | await _ _ =>
    rw [h.2]
    exact ⟨hs.splitter, nofun⟩
  | nextLine =>
    obtain ⟨line, rfl, hgives⟩ := h
    cases line with
    | line text =>
      obtain ⟨hlines, hafter⟩ := hgives
      rw [hafter]
      refine ⟨hs.splitter, fun harmed => ?_⟩
      calc given ++ [text] ++ s'.lines
          = given ++ s.lines := by rw [hlines, List.append_assoc]; rfl
        _ = (start.pushAll since).1 := hs.lines harmed
    | ended =>
      rw [hgives.1]
      simpa [Answer.line?] using hs
    | pending =>
      rw [hgives.1]
      simpa [Answer.line?] using hs
  | send _ _ | hangUp | pass _ | drain =>
    obtain ⟨rfl, rfl⟩ := h
    simpa [Answer.line?] using hs
  | pump =>
    obtain ⟨⟨isOpen, rfl⟩, rfl⟩ := h
    simpa [Answer.line?] using hs

end Move.Deals

namespace Scene

/-- Whatever is done, lines are queued for an armed wait only. -/
theorem queuesForWait_playAll (moves : List Move) {s : Scene} (hs : s.stream.QueuesForWait) :
    (playAll moves s).2.stream.QueuesForWait := by
  refine keep_playAll (P := fun s => s.stream.QueuesForWait) (fun s move _ hs => ?_) hs
  obtain ⟨taken, middle, htaken, hdeals⟩ := s.takes_play move
  have hfed : (s.fed move).QueuesForWait := hs
  exact hdeals.queuesForWait (hfed.takes htaken)

/-- As long as no other wait is armed, the lines that are returned and those that are queued are the
lines that become whole. -/
theorem delivers_playAll (moves : List Move) (harm : .arm ∉ moves) {s : Scene} {before : Inbox}
    {taken since : List (Nat × Arrival)} {start : Splitter} {given : List String}
    (hfollows : s.stream.Follows before (taken ++ since) s.now)
    (hs : s.stream.Delivers start since given) :
    ∃ more, (playAll moves s).2.stream.Follows (sentFrom moves s before) (taken ++ more)
        (playAll moves s).2.now ∧
      (playAll moves s).2.stream.Delivers start more (given ++ returned (playAll moves s).1) := by
  induction moves generalizing s before since given with
  | nil => exact ⟨since, hfollows, by simpa [playAll, returned] using hs⟩
  | cons move moves ih =>
    obtain ⟨hmove, harm⟩ := not_or.1 (mt List.mem_cons.2 harm)
    obtain ⟨first, middle, hfirst, hdeals⟩ := s.takes_play move
    have hfed : (s.fed move).Delivers start since given := ⟨hs.splitter, hs.lines⟩
    have hafter := follows_play hfollows hfirst hdeals
    rw [List.append_assoc] at hafter
    obtain ⟨more, hmore, hdelivers⟩ :=
      ih harm hafter (hdeals.delivers (Ne.symm hmove) (hfed.takes hfirst))
    refine ⟨more, hmore, ?_⟩
    rw [playAll]
    simp only
    rw [returned_cons, ← List.append_assoc]
    exact hdelivers

/-- Lines are queued for an armed wait only. Whatever is sent to a stream and whatever its owner
does with it since it armed the last wait: while that wait is armed, the lines that were returned
since and those that are queued are, in this order, the lines that have become whole since, by what
was taken since. A stream that answers that it has ended is closed, and has returned all of them. -/
theorem lines_since_arm (moves : List Move) :
    let s := (playAll moves {}).2
    (s.stream.armed = false → s.stream.lines = []) ∧
    ∀ before after, moves = before ++ .arm :: after → .arm ∉ after → s.stream.armed = true →
      let start := armedAfter before
      let given := returned (playAll after start).1
      ∃ taken since,
        sent (before ++ [.arm]) = taken ++ start.stream.inbox.arrivals ∧
        sent moves = taken ++ since ++ s.stream.inbox.arrivals ∧
        wholeLines (textOf (taken ++ since)) =
          wholeLines (textOf taken) ++ (given ++ s.stream.lines) ∧
        ((s.play .nextLine).1 = .next .ended →
          let s' := (s.play .nextLine).2
          s'.stream.closed = true ∧
          ∃ more,
            sent moves = taken ++ since ++ more ++ s'.stream.inbox.arrivals ∧
            wholeLines (textOf (taken ++ since ++ more)) = wholeLines (textOf taken) ++ given) := by
  intro s
  refine ⟨queuesForWait_playAll moves (fun _ => rfl), fun before after hmoves harm harmed => ?_⟩
  intro start given
  -- What has been taken when the wait is armed, and what is taken while it is.
  have hnew : ({} : Scene).stream.Follows {} [] ({} : Scene).now := Stream.Follows.new 0
  have hsplit : moves = (before ++ [.arm]) ++ after := by rw [hmoves, List.append_assoc]; rfl
  have hstart : (playAll (before ++ [.arm]) {}).2 = start := by rw [playAll_append]; rfl
  have hend : (playAll after start).2 = s := by
    show _ = (playAll moves {}).2
    rw [hsplit, playAll_append, hstart]
  have hsent : sentFrom after start (sentFrom (before ++ [.arm]) {} {}) = sentFrom moves {} {} := by
    rw [hsplit, sentFrom_append (before ++ [Move.arm]), hstart]
  obtain ⟨taken, htaken, -⟩ := follows_playAll (before ++ [.arm]) hnew
  rw [List.nil_append, hstart] at htaken
  have harms : start.stream.Delivers start.stream.splitter [] [] := ⟨rfl, fun _ => rfl⟩
  obtain ⟨since, hsince, hdelivers⟩ :=
    delivers_playAll after harm (by rwa [List.append_nil]) harms
  rw [hend, hsent] at hsince
  rw [hend, List.nil_append] at hdelivers
  refine ⟨taken, since, htaken.arrivals, hsince.arrivals, ?_, fun hended => ?_⟩
  · rw [htaken.wholeLines_append, hdelivers.lines harmed]
  · -- The queue is empty when the end is told, so that nothing is left to be returned.
    obtain ⟨more, middle, hmore, hdeals⟩ := s.takes_play .nextLine
    have hafter := follows_play hsince hmore hdeals
    obtain ⟨line, hline, hgives⟩ := hdeals
    obtain rfl : line = .ended := by rw [hended] at hline; cases hline; rfl
    obtain ⟨hsame, hempty, hclosed⟩ := hgives
    have hgiven := (hdelivers.takes hmore).lines (by rw [hmore.armed_eq]; exact harmed)
    rw [hempty, List.append_nil] at hgiven
    refine ⟨by rw [hsame]; exact hclosed, more, hafter.arrivals, ?_⟩
    rw [List.append_assoc, htaken.wholeLines_append, ← hgiven]

/-- Of two lines that become whole at once, the second one waits in the queue. -/
example :
    let chunk := Move.send 0 (.data [79, 75, 13, 10, 50, 13, 10])
    let (answers, s) := playAll [chunk, .nextLine] (armedAfter [])
    returned answers = ["OK"] ∧ s.stream.lines = ["2"] := by decide

end Scene

end BringUp.Reply
