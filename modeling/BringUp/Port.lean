import BringUp.Device

/-!
# Ports

A port is something the operator can pick to reach a device. A connector finds the ports and opens
them; what it finds and whether it can open a port may depend on all that has happened so far.
-/

namespace BringUp

/-- A port that the operator can pick. -/
structure Port where
  /-- The name to pick it by. -/
  name : String
  /-- Whether it is the one most likely meant. -/
  preferred : Bool := false
  deriving Repr, DecidableEq

/-- A port as the operator sees it in a list. -/
def Port.label (p : Port) : String := if p.preferred then p.name ++ " (suggested)" else p.name

/-- What opening a port gives. -/
structure Connection where
  /-- How the link is called. -/
  name : String
  /-- The device at the far end. -/
  device : Device
  /-- What the device sends as soon as the port is open. -/
  greeting : List Emission := []

/-- Finds and opens ports. -/
structure Connector where
  /-- Finds the ports. -/
  discover : Trace → Except Failure (List Port)
  /-- Opens a port at a rate of bauds. -/
  connect : Trace → String → Nat → Except Failure Connection

end BringUp
