import BringUp.Device
import BringUp.Reply.Wait
import BringUp.Step.Error

/-!
# Links

A link is an open connection to a device with the stream of its replies.

* `Link.send` writes a line and its end.
* `Link.request` writes a line and waits for a reply. The wait is armed before the line is written,
  so that no reply is missed, however fast, and nothing that came before counts as one.
-/

namespace BringUp

/-- An open connection to a device. -/
structure Link where
  /-- How the link is called. -/
  name : String
  /-- The device at its far end. -/
  device : Device
  /-- What the device sends. -/
  replies : Reply.Stream := {}

namespace Link

/-- The device sends some things. -/
def emit (now : Nat) (emissions : List Emission) (l : Link) : Link :=
  emissions.foldl
    (fun l e => { l with replies.inbox := l.replies.inbox.post now e.delay e.arrival }) l

/-- What the device sends goes into the inbox, and nothing else changes. -/
theorem emit_eq (now : Nat) (emissions : List Emission) (l : Link) :
    l.emit now emissions =
      { l with
        replies.inbox :=
          emissions.foldl (fun inbox e => inbox.post now e.delay e.arrival) l.replies.inbox } := by
  induction emissions generalizing l with
  | nil => rfl
  | cons e emissions ih => exact ih _

/-- What is written for a line: its octets and those of the line end. -/
def octets (line : String) : List UInt8 := Text.Utf8.encode (line ++ lineEnd)

/-- Writes a line to the device, in one writing. Nothing happens if the device refuses it. -/
def send (line : String) (t : Trace) (l : Link) : Except Failure (Trace × Link) :=
  match l.device.respond t (octets line) with
  | .error failure => .error failure
  | .ok emissions => .ok (t.record (.wrote (octets line)), l.emit t.now emissions)

/-- Writes a command and waits for the reply. -/
def request (command : String) (wait : Reply.Wait) (timeout : Nat) (t : Trace) (l : Link) :
    Except StepError Reply.Resolved × Trace × Link :=
  let armed := { l with replies := l.replies.arm t.now }
  match armed.send command t with
  | .error failure =>
    (.error (.transport failure), t, { armed with replies := armed.replies.disarm })
  | .ok (t, l) =>
    let (outcome, time, replies) := l.replies.await wait timeout t.now
    let result : Except StepError Reply.Resolved :=
      match outcome with
      | .resolved found => .ok found
      | .closed => .error .transportClosed
      | .timeout => .error (.timeout command timeout)
    (result, t.waitUntil time, { l with replies })

/-- Closes the link. -/
def close (t : Trace) (l : Link) : Except Failure Unit × Trace :=
  (l.device.close t, t.record .closed)

end Link

end BringUp
