import BringUp.Reply.Inbox
import BringUp.Reply.Splitter
import BringUp.Text.Utf8

/-!
# Reply streams

A reply stream takes what a device sends. All text lands in the transcript. Lines are queued only
while a wait is armed, so that replies which arrive between two waits never answer the later one.
Once the stream is closed nothing more is taken.

The operations that take arrivals run over the list of arrivals, from the earliest on.

* `transcript_take`: the transcript grows by the text of what is taken.
-/

namespace BringUp.Reply

/-- The state of a reply stream. -/
structure Stream where
  /-- What the device has sent and the stream has not taken. -/
  inbox : Inbox := {}
  /-- The unfinished line. -/
  splitter : Splitter := {}
  /-- The lines for the wait. -/
  lines : List String := []
  /-- All text taken so far. -/
  transcript : String := ""
  /-- Whether a wait is armed. -/
  armed : Bool := false
  /-- Whether the stream is closed. -/
  closed : Bool := false
  deriving Repr, DecidableEq, Inhabited

/-- What asking for the next line leads to. -/
inductive NextLine where
  /-- A line was queued or arrived. -/
  | line (text : String)
  /-- The stream is closed and no line is left. -/
  | ended
  /-- Nothing more is there yet. -/
  | pending
  deriving Repr, DecidableEq

/-- The text of an arrival. -/
def Arrival.text : Arrival → String
  | .data bytes => Text.Utf8.text bytes
  | .closed => ""

namespace Stream

/-- Takes an arrival into the stream. -/
def take (a : Arrival) (s : Stream) : Stream :=
  match a with
  | .data bytes =>
    let text := Text.Utf8.text bytes
    let (lines, splitter) := s.splitter.push text
    { s with
      splitter
      transcript := s.transcript ++ text
      lines := if s.armed then s.lines ++ lines else s.lines }
  | .closed => { s with closed := true }

/-- The transcript grows by the text of what is taken. -/
@[simp]
theorem transcript_take (a : Arrival) (s : Stream) :
    (s.take a).transcript = s.transcript ++ a.text := by
  cases a <;> simp [take, Arrival.text]

/-- The stream with other arrivals to come. -/
def withArrivals (arrivals : List (Nat × Arrival)) (s : Stream) : Stream :=
  { s with inbox := { s.inbox with arrivals } }

/-- Nothing is left to arrive: the stream is closed if the device has hung up. -/
def exhaust (s : Stream) : Stream := { s with closed := s.closed || s.inbox.hungUp }

/-- Takes what has arrived by `now` from the arrivals, until the stream is closed. -/
def drainFrom (now : Nat) : List (Nat × Arrival) → Stream → Stream
  | [], s => (s.withArrivals []).exhaust
  | (time, a) :: rest, s =>
    if s.closed then s.withArrivals ((time, a) :: rest)
    else if time ≤ now then drainFrom now rest (s.take a)
    else s.withArrivals ((time, a) :: rest)

/-- Takes all that has arrived by `now`. -/
def drain (now : Nat) (s : Stream) : Stream := drainFrom now s.inbox.arrivals s

/-- Arms a wait: lines completed from now on are queued. What arrived before is taken, but no line
of it is. -/
def arm (now : Nat) (s : Stream) : Stream := { s.drain now with lines := [], armed := true }

/-- Ends a wait; the lines that it left are dropped. -/
def disarm (s : Stream) : Stream := { s with lines := [], armed := false }

/-- Takes the next arrival, if that needs no waiting, and tells whether the stream is still open. -/
def pump? (now : Nat) (s : Stream) : Option (Bool × Stream) :=
  if s.closed then some (false, s)
  else match s.inbox.arrivals with
    | [] => if s.inbox.hungUp then some (false, { s with closed := true }) else none
    | (time, a) :: rest =>
      if time ≤ now then
        let s := (s.withArrivals rest).take a
        some (!s.closed, s)
      else none

/-- The next queued line, taking as many arrivals as needed and possible without waiting. -/
def nextLineFrom (now : Nat) : List (Nat × Arrival) → Stream → NextLine × Stream
  | arrivals, s =>
    match s.lines with
    | line :: lines => (.line line, { s with lines }.withArrivals arrivals)
    | [] =>
      if s.closed then (.ended, s.withArrivals arrivals)
      else match arrivals with
        | [] =>
          if s.inbox.hungUp then (.ended, { s with closed := true }.withArrivals [])
          else (.pending, s.withArrivals [])
        | (time, a) :: rest =>
          if time ≤ now then nextLineFrom now rest (s.take a)
          else (.pending, s.withArrivals ((time, a) :: rest))

/-- The next line for the wait. -/
def nextLine (now : Nat) (s : Stream) : NextLine × Stream := nextLineFrom now s.inbox.arrivals s

/-- The time at which the stream has something to take or its end to notice. -/
def due (now : Nat) (s : Stream) : Option Nat := if s.closed then some now else s.inbox.due now

end Stream

end BringUp.Reply
