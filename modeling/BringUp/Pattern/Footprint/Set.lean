import BringUp.Pattern.Footprint.Part
import BringUp.Pattern.Octets
import Std.Data.HashMap

/-!
# Sets of characters in an automaton

A set of characters is an automaton of its own over the octets of their encodings. States with the
same transitions are built once as long as they are remembered: the memory has a fixed number of
slots, and what falls into a slot that is taken replaces what was there. Read forwards, encodings
share their ends; read backwards, they share their beginnings.
-/

namespace BringUp.Pattern.Footprint

open Unicode (CharSet)

/-- The states that are remembered, by what they hold, and what has been built. -/
structure Builder where
  /-- What has been built. -/
  meter : Meter
  /-- How many slots the memory has. -/
  slots : Nat
  /-- What is in each slot: the numbers of the state and its place. -/
  memory : Std.HashMap Nat (Array Nat × Nat) := {}

namespace Builder

/-- The slot of a state: its numbers are mixed one by one into a word of 64 bits. -/
def slot (b : Builder) (numbers : Array Nat) : Nat :=
  let mix (h : UInt64) (n : Nat) : UInt64 := (h ^^^ n.toUInt64) * 1099511628211
  (numbers.foldl mix 14695981039346656037).toNat % b.slots

/-- The state with these numbers: the one that is remembered, or a new one that holds `extra`
octets. -/
def share (b : Builder) (numbers : Array Nat) (extra : Nat) : Builder × Nat :=
  let slot := b.slot numbers
  let new : Builder × Nat :=
    let place := b.meter.states
    ({ b with meter := b.meter.add extra, memory := b.memory.insert slot (numbers, place) }, place)
  match b.memory[slot]? with
  | some (known, place) => if known == numbers then (b, place) else new
  | none => new

end Builder

/-- A state whose transitions are not all known: those that are, three numbers each, and the
octets of the one whose end is still open. -/
structure OpenState where
  /-- First octet, last octet and next state of each finished transition. -/
  finished : Array Nat := #[]
  /-- The octets of the open transition. -/
  pending : Option (Nat × Nat) := none

namespace OpenState

/-- The state after its open transition, if there is one, was led to `next`. -/
def finish (s : OpenState) (next : Nat) : OpenState :=
  match s.pending with
  | some (lo, hi) => { finished := ((s.finished.push lo).push hi).push next }
  | none => s

/-- Builds the states of a path, the last one first, and gives the place of the first one. The
last one leads to `target`. -/
def close (target : Nat) : List OpenState → Builder → Builder × Nat
  | [], b => (b, target)
  | s :: path, b =>
    let (b, next) := close target path b
    let numbers := (s.finish next).finished
    b.share numbers (Meter.transitions (numbers.size / 3))

/-- Adds a sequence to a path. What it shares with the sequence before stays open; the rest of
the path is built. -/
def add (target : Nat) : List OpenState → Octets.Sequence → Builder → Builder × List OpenState
  | s :: path, r :: rest, b =>
    if s.pending == some r then
      let (b, path) := add target path rest b
      (b, s :: path)
    else
      let (b, next) := close target path b
      (b, { s.finish next with pending := some r } :: rest.map fun r => { pending := some r })
  | path, _, b => (b, path)

end OpenState

/-- The states that read one of the sequences forwards. -/
def forwards (seqs : List Octets.Sequence) (m : Meter) : Meter :=
  let target := m.states
  let start : Builder × List OpenState := ({ meter := m.add 0, slots := 10000 }, [{}])
  let (b, path) := seqs.foldl (fun (b, path) seq => OpenState.add target path seq b) start
  (OpenState.close target path b).1.meter

/-- The states that read one of the sequences backwards: a choice leads to the last octet of each,
and the first octet leads to the common end. -/
def backwards (seqs : List Octets.Sequence) (m : Meter) : Meter :=
  let m := m.add (Meter.alternatives seqs.length)
  let target := m.states
  let read (b : Builder) (seq : Octets.Sequence) : Builder :=
    (seq.foldl (fun (b, next) (lo, hi) => b.share #[next, lo, hi] 0) (b, target)).1
  (seqs.foldl read { meter := m.add 0, slots := 1000 }).meter

/-- The part that reads one character of a set. -/
def Part.ofSet (backward : Bool) (s : CharSet) : Part :=
  let byRanges (count : Nat) : Part :=
    { build m := ((m.add 0).add (Meter.transitions count), false) }
  let bySequences : Part :=
    let seqs := Octets.ofSet s
    { build m := (if backward then backwards seqs m else forwards seqs m, false) }
  match s.ranges with
  | [(lo, hi)] =>
    if lo == hi then
      .ofWord (if backward then (Octets.encode lo).reverse else Octets.encode lo)
    else if s.isAscii then byRanges 1 else bySequences
  | ranges => if s.isAscii then byRanges ranges.length else bySequences

end BringUp.Pattern.Footprint
