import BringUp.Failure
import BringUp.Reply.Inbox
import BringUp.Trace

/-!
# Devices

A device answers what is written to it with things it sends, each at once or some time later. What
it does may depend on all that has happened so far.
-/

namespace BringUp

/-- Something that a device sends. -/
structure Emission where
  /-- The time from now until it arrives. -/
  delay : Nat := 0
  /-- What arrives. -/
  arrival : Reply.Arrival
  deriving Repr, DecidableEq

/-- A device at the far end of a link. -/
structure Device where
  /-- What the device does with octets that are written: it refuses them or sends something. -/
  respond : Trace → List UInt8 → Except Failure (List Emission)
  /-- What closing the link to the device leads to. -/
  close : Trace → Except Failure Unit := fun _ => .ok ()

instance : Inhabited Device := ⟨{ respond := fun _ _ => .ok [] }⟩

end BringUp
