import BringUp.Device
import BringUp.Text.Utf8

/-!
# Scripted devices

A scripted device has a list of batches for each line that it knows. The first writing of a line is
answered by its first batch, the next one by the second, and so on; the last batch answers all
further ones. Lines that it does not know are taken without an answer.
-/

namespace BringUp

/-- What a scripted device does. -/
structure DeviceScript where
  /-- The batches by line. -/
  replies : List (String × List (List Emission)) := []
  /-- Lines that cannot be written. -/
  refusals : List (String × Failure) := []
  /-- Why no other line can be written, if so. -/
  refusal : Option Failure := none
  /-- Why the link cannot be closed, if so. -/
  closeFailure : Option Failure := none
  /-- What the device sends when a link is opened. -/
  greeting : List Emission := []

/-- The batch for the writing of a line after `count` earlier ones. -/
def nthBatch (batches : List (List Emission)) (count : Nat) : List Emission :=
  (batches[count]? <|> batches.getLast?).getD []

/-- The line that is written with the octets, whose last two are its end. -/
def writtenLine (octets : List UInt8) : String := Text.Utf8.text octets.dropLast.dropLast

/-- The device that follows a script. -/
def Device.scripted (script : DeviceScript) : Device where
  respond t octets :=
    let line := writtenLine octets
    match (script.refusals.lookup line).or script.refusal with
    | some failure => .error failure
    | none => .ok (nthBatch ((script.replies.lookup line).getD []) (t.written.count octets))
  close _ :=
    match script.closeFailure with
    | some failure => .error failure
    | none => .ok ()

end BringUp
