import BringUp.Port
import BringUp.Text.Numeral

/-!
# Ranking ports

Ports are listed in the order of their names, where a number at the end of a name counts as a
number: `COM10` comes after `COM9`. The debug cable with the greatest name is preferred, and without
one the last port.

* `perm_sortPorts`: sorting neither adds nor loses a port.
-/

namespace BringUp

/-- What a port is attached to. -/
inductive PortKind where
  /-- A USB device of a vendor and a product. -/
  | usb (vendor product : Nat)
  /-- A PCI device. -/
  | pci
  /-- A Bluetooth device. -/
  | bluetooth
  /-- Nothing known. -/
  | unknown
  deriving Repr, DecidableEq

/-- A serial port as the system knows it. -/
structure SerialPort where
  /-- The name. -/
  name : String
  /-- What it is attached to. -/
  kind : PortKind := .unknown
  deriving Repr, DecidableEq

namespace SerialPort

/-- Whether the port is a debug cable, which has a vendor and a product of its own. -/
def isDebugCable (p : SerialPort) : Bool := p.kind == .usb 0x0403 0x6001

/-- The name without the number at its end. -/
def stem (p : SerialPort) : String :=
  String.ofList (p.name.toList.reverse.dropWhile Char.isDigit).reverse

/-- The number at the end of the name; zero if there is none or if it needs more than 64 bits. -/
def number (p : SerialPort) : Nat :=
  match Text.readNat Text.maxWord64 (p.name.toList.reverse.takeWhile Char.isDigit).reverse with
  | .ok n => n
  | .error _ => 0

/-- Whether `p` may stand before `q`. -/
def precedes (p q : SerialPort) : Bool :=
  decide (p.stem < q.stem) || (p.stem == q.stem && decide (p.number ≤ q.number))

end SerialPort

/-- The ports in the order of their names; ports of one name keep their order. -/
def sortPorts (ports : List SerialPort) : List SerialPort := ports.mergeSort SerialPort.precedes

/-- Sorting neither adds nor loses a port. -/
theorem perm_sortPorts (ports : List SerialPort) : (sortPorts ports).Perm ports :=
  List.mergeSort_perm ports SerialPort.precedes

/-- How many ports stand behind the preferred one: those behind the last debug cable. -/
def behindPreferred (ports : List SerialPort) : Nat :=
  (ports.reverse.findIdx? SerialPort.isDebugCable).getD 0

/-- The ports in their order, one of them preferred. -/
def rankPorts (ports : List SerialPort) : List Port :=
  let sorted := sortPorts ports
  sorted.mapIdx fun index port =>
    { name := port.name, preferred := index + behindPreferred sorted + 1 == sorted.length }

end BringUp
