import BringUp.Proofs.Reply.Splitting
import BringUp.Proofs.Reply.Taking
import Mathlib.Logic.Relation

/-!
# What can be done with a reply stream

The owner of a stream changes it in four ways only: it takes the next arrival, it notices the end of
the connection, it gives a queued line away, or it starts or ends a wait. Every operation on a
stream is a sequence of such changes, so that what each change keeps, each operation keeps.

A scene is a stream at a time. Moves are what the device and the owner do in it, in any order.

* `Scene.takes_play`: what a move takes, and what it does to the queue and the wait then.
* `Scene.changes_play`: what the owner does, as a sequence of changes.
* `Scene.pending_playAll`: whatever is done, the unfinished line is the rest of the transcript.
-/

namespace BringUp.Reply

open Relation (ReflTransGen)

/-- What is scheduled is to come, with what was to come before. -/
theorem mem_schedule {due : Nat} {a : Arrival} {arrivals : List (Nat × Arrival)}
    {arrival : Nat × Arrival} :
    arrival ∈ schedule due a arrivals ↔ arrival = (due, a) ∨ arrival ∈ arrivals := by
  induction arrivals with
  | nil => simp [schedule]
  | cons head rest ih =>
    obtain ⟨time, b⟩ := head
    rw [schedule]
    split_ifs with hle
    · rw [List.mem_cons, ih, List.mem_cons]
      exact or_left_comm
    · rw [List.mem_cons]

namespace Stream

/-- One change that the owner of a stream makes. -/
inductive Change : Stream → Stream → Prop where
  /-- The next arrival is taken. -/
  | take {s : Stream} {time : Nat} {a : Arrival} {rest : List (Nat × Arrival)} :
    s.closed = false → s.inbox.arrivals = (time, a) :: rest →
      Change s ((s.withArrivals rest).take a)
  /-- The end of the connection is noticed. -/
  | close {s : Stream} : s.inbox.arrivals = [] → s.inbox.hungUp = true →
      Change s { s with closed := true }
  /-- A queued line is given away. -/
  | pop {s : Stream} {line : String} {lines : List String} : s.lines = line :: lines →
      Change s { s with lines }
  /-- A wait starts or ends, with an empty queue. -/
  | rearm {s : Stream} (armed : Bool) : Change s { s with lines := [], armed }

/-- Changes, one after the other. -/
abbrev Changes : Stream → Stream → Prop := ReflTransGen Change

/-- What each change keeps, all of them keep. -/
theorem Changes.keep {P : Stream → Prop} (hkeep : ∀ {s s' : Stream}, Change s s' → P s → P s')
    {s s' : Stream} (h : Changes s s') (hs : P s) : P s' := by
  induction h with
  | refl => exact hs
  | tail _ hchange ih => exact hkeep hchange ih

/-! ### The operations as changes -/

/-- Taking arrivals is a sequence of changes. -/
theorem Takes.changes {now : Nat} {s s' : Stream} {taken : List (Nat × Arrival)}
    (h : Takes now s taken s') : Changes s s' := by
  induction h with
  | stop s => exact .refl
  | close hnone hup => exact .single (.close hnone hup)
  | take hopen harrivals _ _ ih => exact .head (.take hopen harrivals) ih

/-- Giving a line away is a change. -/
theorem Gives.changes {line : NextLine} {s s' : Stream} (h : s.Gives line s') : Changes s s' := by
  cases line with
  | line text =>
    obtain ⟨hlines, hafter⟩ := h
    rw [hafter]
    exact .single (.pop hlines)
  | ended =>
    obtain ⟨rfl, -⟩ := h
    exact .refl
  | pending =>
    obtain ⟨rfl, -⟩ := h
    exact .refl

/-- Draining is a sequence of changes. -/
theorem changes_drain (now : Nat) (s : Stream) : Changes s (s.drain now) := by
  obtain ⟨taken, htaken⟩ := takes_drain now s
  exact htaken.changes

/-- Arming is a sequence of changes. -/
theorem changes_arm (now : Nat) (s : Stream) : Changes s (s.arm now) :=
  (changes_drain now s).tail (.rearm true)

end Stream

/-- Something that the device or the owner of a stream does. -/
inductive Move where
  /-- The device sends something, which arrives after `delay`. -/
  | send (delay : Nat) (a : Arrival)
  /-- The device hangs up. -/
  | hangUp
  /-- Some time passes. -/
  | pass (time : Nat)
  /-- The owner arms a wait. -/
  | arm
  /-- The owner ends a wait. -/
  | disarm
  /-- The owner takes all that has arrived. -/
  | drain
  /-- The owner takes the next arrival, if it is there. -/
  | pump
  /-- The owner asks for the next line. -/
  | nextLine
  /-- The owner waits for a reply. -/
  | await (wait : Wait) (timeout : Nat)

/-- What a move gives to the owner. -/
inductive Answer where
  /-- Nothing. -/
  | nothing
  /-- Whether the stream is still open, if that could be told. -/
  | pumped (isOpen : Option Bool)
  /-- A line, or why there is none. -/
  | next (line : NextLine)
  /-- How a wait ended. -/
  | awaited (outcome : Outcome)
  deriving DecidableEq

/-- What has been sent after a move that is made at the time `now`. -/
def Move.sends (now : Nat) (sent : Inbox) : Move → Inbox
  | .send delay a => sent.post now delay a
  | .hangUp => sent.hangUp
  | .pass _ | .arm | .disarm | .drain | .pump | .nextLine | .await _ _ => sent

/-- What a move does to the queue and the wait, behind all that it takes: how its answer fits the
stream from which all has been taken and the stream after it. -/
def Move.Deals (s : Stream) (answer : Answer) (s' : Stream) : Move → Prop
  | .send _ _ | .hangUp | .pass _ | .drain => answer = .nothing ∧ s' = s
  | .pump => (∃ isOpen, answer = .pumped isOpen) ∧ s' = s
  | .arm => answer = .nothing ∧ s' = { s with lines := [], armed := true }
  | .disarm => answer = .nothing ∧ s' = s.disarm
  | .nextLine => ∃ line, answer = .next line ∧ s.Gives line s'
  | .await _ _ => (∃ outcome, answer = .awaited outcome) ∧ s' = s.disarm

/-- A move changes nothing but the queue and the wait behind what it takes. -/
theorem Move.Deals.eq_withQueue {move : Move} {answer : Answer} {s s' : Stream}
    (h : move.Deals s answer s') : s' = { s with lines := s'.lines, armed := s'.armed } := by
  cases move with
  | send _ _ | hangUp | pass _ | drain | pump | arm => rw [h.2]
  | disarm | await _ _ =>
    rw [h.2]
    rfl
  | nextLine =>
    obtain ⟨line, -, hgives⟩ := h
    rw [hgives.eq_withLines]

/-- What a move does to the queue and the wait is at most one change. -/
theorem Move.Deals.changes {move : Move} {answer : Answer} {s s' : Stream}
    (h : move.Deals s answer s') : s.Changes s' := by
  cases move with
  | arm =>
    rw [h.2]
    exact .single (.rearm true)
  | disarm | await _ _ =>
    rw [h.2]
    exact .single (.rearm false)
  | nextLine =>
    obtain ⟨line, -, hgives⟩ := h
    exact hgives.changes
  | send _ _ | hangUp | pass _ | drain | pump =>
    rw [h.2]

/-- A stream at a time. -/
structure Scene where
  /-- The time. -/
  now : Nat := 0
  /-- The stream. -/
  stream : Stream := {}

namespace Scene

/-- Makes a move. -/
def play (s : Scene) : Move → Answer × Scene
  | .send delay a =>
    (.nothing, { s with stream := { s.stream with inbox := s.stream.inbox.post s.now delay a } })
  | .hangUp => (.nothing, { s with stream := { s.stream with inbox := s.stream.inbox.hangUp } })
  | .pass time => (.nothing, { s with now := s.now + time })
  | .arm => (.nothing, { s with stream := s.stream.arm s.now })
  | .disarm => (.nothing, { s with stream := s.stream.disarm })
  | .drain => (.nothing, { s with stream := s.stream.drain s.now })
  | .pump =>
    match s.stream.pump? s.now with
    | none => (.pumped none, s)
    | some (isOpen, stream) => (.pumped (some isOpen), { s with stream })
  | .nextLine =>
    let (line, stream) := s.stream.nextLine s.now
    (.next line, { s with stream })
  | .await wait timeout =>
    let (outcome, now, stream) := s.stream.await wait timeout s.now
    (.awaited outcome, { now, stream })

/-- Makes moves, one after the other. Gives the answers and their times. -/
def playAll : List Move → Scene → List (Nat × Answer) × Scene
  | [], s => ([], s)
  | move :: moves, s =>
    let (answer, after) := s.play move
    let (answers, last) := playAll moves after
    ((after.now, answer) :: answers, last)

/-- The stream of a scene, once the device has done its part of a move. -/
def fed (s : Scene) (move : Move) : Stream :=
  { s.stream with inbox := move.sends s.now s.stream.inbox }

/-- A move takes arrivals, and does something to the queue and the wait then. -/
theorem takes_play (s : Scene) (move : Move) : ∃ taken middle,
    Stream.Takes (s.play move).2.now (s.fed move) taken middle ∧
      move.Deals middle (s.play move).1 (s.play move).2.stream := by
  cases move with
  | send delay a => exact ⟨[], _, .stop _, rfl, rfl⟩
  | hangUp => exact ⟨[], _, .stop _, rfl, rfl⟩
  | pass time => exact ⟨[], _, .stop _, rfl, rfl⟩
  | arm =>
    obtain ⟨taken, htaken⟩ := s.stream.takes_drain s.now
    exact ⟨taken, _, htaken, rfl, rfl⟩
  | disarm => exact ⟨[], _, .stop _, rfl, rfl⟩
  | drain =>
    obtain ⟨taken, htaken⟩ := s.stream.takes_drain s.now
    exact ⟨taken, _, htaken, rfl, rfl⟩
  | pump =>
    rw [play]
    split
    · exact ⟨[], _, .stop _, ⟨none, rfl⟩, rfl⟩
    · rename_i isOpen _ hpump
      obtain ⟨taken, htaken⟩ := Stream.takes_pump hpump
      exact ⟨taken, _, htaken, ⟨some isOpen, rfl⟩, rfl⟩
  | nextLine =>
    obtain ⟨taken, middle, htaken, hgives⟩ := s.stream.takes_nextLine s.now
    exact ⟨taken, middle, htaken, _, rfl, hgives⟩
  | await wait timeout =>
    obtain ⟨taken, middle, htaken, hafter⟩ := s.stream.takes_await wait timeout s.now
    exact ⟨taken, middle, htaken, ⟨_, rfl⟩, hafter⟩

/-- A move takes no time back. -/
theorem now_le_play (s : Scene) (move : Move) : s.now ≤ (s.play move).2.now := by
  cases move with
  | pass time => exact Nat.le_add_right s.now time
  | await wait timeout => exact s.stream.le_awaitFrom wait (s.now + timeout) _ s.now
  | pump =>
    rw [play]
    split <;> exact Nat.le_refl s.now
  | send _ _ | hangUp | arm | disarm | drain | nextLine => exact Nat.le_refl s.now

/-- Whatever the owner does, it changes the stream only as an owner can. -/
theorem changes_play (s : Scene) (move : Move)
    (howner : ∀ delay a, move ≠ .send delay a) (hstays : move ≠ .hangUp) :
    s.stream.Changes (s.play move).2.stream := by
  obtain ⟨taken, middle, htaken, hdeals⟩ := s.takes_play move
  -- The owner's own moves send nothing, so they start from the stream as it is.
  have hfed : s.fed move = s.stream := by
    cases move with
    | send delay a => exact absurd rfl (howner delay a)
    | hangUp => exact absurd rfl hstays
    | pass _ | arm | disarm | drain | pump | nextLine | await _ _ => rfl
  rw [hfed] at htaken
  exact htaken.changes.trans hdeals.changes

/-- What no move ends, no number of moves ends. -/
theorem keep_playAll {P : Scene → Prop} {moves : List Move}
    (hkeep : ∀ s, ∀ move ∈ moves, P s → P (s.play move).2) {s : Scene} (hs : P s) :
    P (playAll moves s).2 := by
  induction moves generalizing s with
  | nil => exact hs
  | cons move moves ih =>
    exact ih (fun s move hmove => hkeep s move (List.mem_cons_of_mem _ hmove))
      (hkeep s move List.mem_cons_self hs)

end Scene

/-! ### The unfinished line -/

/-- What each change keeps of the unfinished line. -/
theorem Stream.Change.pending_eq {s s' : Stream} (h : Change s s')
    (hs : s.splitter.pending = unfinished s.transcript) :
    s'.splitter.pending = unfinished s'.transcript := by
  cases h with
  | @take _ a _ _ _ =>
    cases a with
    | closed => exact hs
    | data bytes =>
      calc (s.splitter.push (Text.Utf8.text bytes)).2.pending
          = unfinished (s.splitter.pending ++ Text.Utf8.text bytes) := Splitter.pending_push _ _
        _ = unfinished (unfinished s.transcript ++ Text.Utf8.text bytes) := by rw [hs]
        _ = unfinished (s.transcript ++ Text.Utf8.text bytes) := (unfinished_append _ _).symm
  | close _ _ => exact hs
  | pop _ => exact hs
  | rearm _ => exact hs

/-- Whatever is done, the unfinished line is that of the transcript. -/
theorem Scene.pending_playAll (moves : List Move) {s : Scene}
    (hs : s.stream.splitter.pending = unfinished s.stream.transcript) :
    (playAll moves s).2.stream.splitter.pending =
      unfinished (playAll moves s).2.stream.transcript := by
  refine keep_playAll (P := fun s => s.stream.splitter.pending = unfinished s.stream.transcript)
    (fun s move _ hs => ?_) hs
  -- The device fills the inbox only; what the owner does is covered by the changes.
  by_cases hsend : ∃ delay a, move = .send delay a
  · obtain ⟨delay, a, rfl⟩ := hsend
    exact hs
  · by_cases hup : move = .hangUp
    · subst hup
      exact hs
    · exact (s.changes_play move (fun delay a h => hsend ⟨delay, a, h⟩) hup).keep
        (fun h => h.pending_eq) hs

end BringUp.Reply
