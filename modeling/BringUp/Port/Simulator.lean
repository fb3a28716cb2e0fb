import BringUp.Port

/-!
# Simulators

A simulator is a program that plays the device, so that a sequence can be rehearsed without one. It
is offered as a single port.
-/

namespace BringUp

/-- A program that plays the device. -/
structure Simulator where
  /-- The program. -/
  program : String
  /-- Its arguments. -/
  arguments : List String := []
  /-- Starts a program with arguments in a terminal. -/
  start : String → List String → Except Failure Connection

namespace Simulator

/-- The name of the port. -/
def portName : String := "pty"

/-- The only port. -/
def discover : List Port := [{ name := portName, preferred := true }]

/-- Starts the simulator, if its port is meant. -/
def connect (port : String) (s : Simulator) : Except Failure Connection :=
  if port ≠ portName then
    .error { message :=
      "Unknown transport '" ++ port ++ "', the simulator is '" ++ portName ++ "'" }
  else
    match s.start s.program s.arguments with
    | .ok connection => .ok { connection with name := portName ++ " (" ++ s.program ++ ")" }
    | .error failure => .error failure

/-- The connector for a simulator. -/
def connector (s : Simulator) : Connector where
  discover _ := .ok discover
  connect _ port _ := s.connect port

end Simulator

end BringUp
