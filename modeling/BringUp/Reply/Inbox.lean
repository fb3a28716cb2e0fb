/-!
# What a device sends

An inbox holds what a device sends until it is taken, in the order of the times at which it
arrives. Two arrivals at the same time keep the order in which they were sent.

* `due`: the time at which there is something to take.
-/

namespace BringUp.Reply

/-- What arrives from a device. -/
inductive Arrival where
  /-- A chunk of octets. -/
  | data (bytes : List UInt8)
  /-- The connection is closed. -/
  | closed
  deriving Repr, DecidableEq

/-- Puts an arrival behind those that are due no later. -/
def schedule (due : Nat) (a : Arrival) : List (Nat × Arrival) → List (Nat × Arrival)
  | [] => [(due, a)]
  | (t, b) :: rest => if t ≤ due then (t, b) :: schedule due a rest else (due, a) :: (t, b) :: rest

/-- What a device has sent and nobody has taken yet. -/
structure Inbox where
  /-- The arrivals and their times, in the order of the times. -/
  arrivals : List (Nat × Arrival) := []
  /-- Whether the device has hung up, so that nothing will be sent any more. -/
  hungUp : Bool := false
  deriving Repr, DecidableEq, Inhabited

namespace Inbox

/-- The device sends something at `now` that arrives after `delay`. -/
def post (now delay : Nat) (a : Arrival) (i : Inbox) : Inbox :=
  if i.hungUp then i else { i with arrivals := schedule (now + delay) a i.arrivals }

/-- The device hangs up. What it has sent still arrives. -/
def hangUp (i : Inbox) : Inbox := { i with hungUp := true }

/-- The time at which there is something to take, or the end of the connection to notice: the end
can be noticed at once. -/
def due (now : Nat) (i : Inbox) : Option Nat :=
  match i.arrivals with
  | (time, _) :: _ => some time
  | [] => if i.hungUp then some now else none

end Inbox

end BringUp.Reply
