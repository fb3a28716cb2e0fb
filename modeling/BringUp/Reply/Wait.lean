import BringUp.Pattern
import BringUp.Reply.Stream

/-!
# Waiting for a reply

A wait ends with the lines it is for, with the end of the stream, or at its deadline, whichever
comes first. What is there already is looked at before time passes, so a wait whose lines have
arrived succeeds whatever its deadline. In every case the stream is disarmed at the end.

* `armed_await`, `lines_await`: no wait leaves the stream armed or a line queued.
-/

namespace BringUp.Reply

/-- What a wait is for. -/
inductive Wait where
  /-- So many lines. -/
  | count (n : Nat)
  /-- The first line that the pattern matches. -/
  | pattern (p : Pattern)

/-- What a wait has found. -/
inductive Resolved where
  /-- The wanted number of lines. -/
  | lines (lines : List String)
  /-- The matching line. -/
  | matched (line : String)
  deriving Repr, DecidableEq

/-- How a wait ends. -/
inductive Outcome where
  /-- It found what it was for. -/
  | resolved (found : Resolved)
  /-- The stream was closed. -/
  | closed
  /-- The deadline came. -/
  | timeout
  deriving Repr, DecidableEq

/-- What the wait is for, if it is among the lines that arrived since it was armed. -/
def Wait.resolve? (lines : List String) : Wait → Option Resolved
  | .count n => if n ≤ lines.length then some (.lines (lines.take n)) else none
  | .pattern p => (lines.find? p.isMatch).map .matched

namespace Stream

/-- Waits over the arrivals from the time `now` on. Gives the outcome and its time. -/
def awaitFrom (wait : Wait) (deadline : Nat) :
    List (Nat × Arrival) → Nat → Stream → Outcome × Nat × Stream
  | arrivals, now, s =>
    match wait.resolve? s.lines with
    | some found => (.resolved found, now, s.withArrivals arrivals)
    | none =>
      if s.closed then (.closed, now, s.withArrivals arrivals)
      else match arrivals with
        | [] =>
          if s.inbox.hungUp then (.closed, now, { s with closed := true }.withArrivals [])
          else (.timeout, max now deadline, s.withArrivals [])
        | (time, a) :: rest =>
          if time ≤ now || time < deadline then
            awaitFrom wait deadline rest (max now time) (s.take a)
          else (.timeout, max now deadline, s.withArrivals ((time, a) :: rest))

/-- Waits for at most `timeout`, then disarms the stream. Gives the outcome and its time. -/
def await (wait : Wait) (timeout now : Nat) (s : Stream) : Outcome × Nat × Stream :=
  let (outcome, time, s) := awaitFrom wait (now + timeout) s.inbox.arrivals now s
  (outcome, time, s.disarm)

/-- No wait leaves the stream armed. -/
theorem armed_await (wait : Wait) (timeout now : Nat) (s : Stream) :
    (s.await wait timeout now).2.2.armed = false := rfl

/-- No wait leaves a line queued. -/
theorem lines_await (wait : Wait) (timeout now : Nat) (s : Stream) :
    (s.await wait timeout now).2.2.lines = [] := rfl

end Stream

end BringUp.Reply
