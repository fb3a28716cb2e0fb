import BringUp.Port.Ranking
import BringUp.Reader

/-!
# Serial ports

A serial host lists the serial ports of a system and opens, writes and reads them. An open port is
read by a copy of its handle, so opening fails also if the handle cannot be copied. What is written
is written as a whole and flushed.
-/

namespace BringUp

/-- What a serial host is asked to do and does. -/
inductive SerialCall where
  /-- Open a port at a rate of bauds, with the longest time in milliseconds that a read may take. -/
  | openPort (port : String) (baud timeout : Nat)
  /-- Write octets. -/
  | write (octets : List UInt8)
  /-- Send what was written. -/
  | flush
  deriving Repr, DecidableEq

/-- The serial ports of a system. -/
structure SerialHost where
  /-- The ports, or why they cannot be listed. -/
  ports : Except Failure (List SerialPort) := .ok []
  /-- Why ports cannot be opened, if so. -/
  openFailure : Option Failure := none
  /-- Why the handle of an open port cannot be copied, if so. -/
  copyFailure : Option Failure := none
  /-- Why nothing can be written, if so. -/
  writeFailure : Option Failure := none
  /-- Why what was written cannot be sent, if so. -/
  flushFailure : Option Failure := none
  /-- What is read from an open port. -/
  reads : List Reader.Read := []

namespace SerialHost

/-- The longest time in milliseconds that a read may take. -/
def readTimeout : Nat := 100

/-- What is done to write octets, and why it failed, if so. -/
def write (octets : List UInt8) (h : SerialHost) : Option Failure × List SerialCall :=
  match h.writeFailure with
  | some failure => (some failure, [])
  | none =>
    match h.flushFailure with
    | some failure => (some failure, [.write octets])
    | none => (none, [.write octets, .flush])

/-- The device behind an open port. -/
def device (h : SerialHost) : Device where
  respond _ octets :=
    match (h.write octets).1 with
    | some failure => .error failure
    | none => .ok []

/-- Lists the ports, ranked. -/
def discover (h : SerialHost) : Except Failure (List Port) :=
  match h.ports with
  | .ok ports => .ok (rankPorts ports)
  | .error failure => .error (failure.context "Failed to list serial ports")

/-- What is done to open a port. -/
def opening (port : String) (baud : Nat) : List SerialCall := [.openPort port baud readTimeout]

/-- Opens a port. -/
def connect (port : String) (baud : Nat) (h : SerialHost) : Except Failure Connection :=
  match h.openFailure with
  | some failure =>
    .error (failure.context ("Failed to open " ++ port ++ " at " ++ toString baud ++ " baud"))
  | none =>
    match h.copyFailure with
    | some failure => .error (failure.context ("Failed to clone reader for " ++ port))
    | none =>
      .ok {
        name := port
        device := h.device
        greeting := (Reader.arrivals h.reads).map fun arrival => { arrival } }

/-- The connector for the ports of a system. -/
def connector (h : SerialHost) : Connector where
  discover _ := h.discover
  connect _ port baud := h.connect port baud

end SerialHost

end BringUp
