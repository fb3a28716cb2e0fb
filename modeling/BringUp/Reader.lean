import BringUp.Reply.Inbox

/-!
# Reading from a source

A source is read block by block, and each block that is read is one arrival. A read that gives
nothing is the end of the source. A read that fails because nothing came in time, or because it was
interrupted, is tried again; any other failure ends the source. At the end the connection is closed.
-/

namespace BringUp.Reader

/-- Why a read fails. -/
inductive ReadFailure where
  /-- Nothing came in time. -/
  | timedOut
  /-- The read was interrupted. -/
  | interrupted
  /-- The source would have to wait. -/
  | wouldBlock
  /-- The source is broken. -/
  | broken
  deriving Repr, DecidableEq

/-- Whether a read is tried again after the failure. -/
def ReadFailure.isPassing : ReadFailure → Bool
  | .timedOut | .interrupted => true
  | .wouldBlock | .broken => false

/-- What a source gives to a reader. -/
inductive Read where
  /-- Octets, in as many reads as they need. -/
  | data (bytes : List UInt8)
  /-- The end of the source. -/
  | ended
  /-- A failure. -/
  | failed (why : ReadFailure)
  deriving Repr, DecidableEq

/-- The greatest number of octets in one read. -/
def blockSize : Nat := 4096

/-- The octets in blocks. -/
def blocks : List UInt8 → List (List UInt8)
  | [] => []
  | b :: bs => (b :: bs).take blockSize :: blocks ((b :: bs).drop blockSize)
termination_by bytes => bytes.length
decreasing_by
  rw [List.length_drop, List.length_cons, blockSize]
  omega

/-- What arrives from a source. -/
def arrivals : List Read → List Reply.Arrival
  | [] | .ended :: _ => [.closed]
  | .data bytes :: rest =>
    if bytes.isEmpty then [.closed] else (blocks bytes).map .data ++ arrivals rest
  | .failed why :: rest => if why.isPassing then arrivals rest else [.closed]

end BringUp.Reader
