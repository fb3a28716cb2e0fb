/-!
# Parts of an automaton

An automaton is weighed as it is built, part by part, without keeping its states. A part adds
states to those that are there, and what follows it is linked to its end. Where a part ends in a
choice, that link is one more alternative of the choice.

* `Meter.octets` is the weight of what has been built.
* `Part.copies` repeats a part and stops as soon as the limit is passed.
-/

namespace BringUp.Pattern

/-- The most memory the automaton of a pattern may take, in octets. -/
def sizeLimit : Nat := 10 * 1024 * 1024

namespace Footprint

/-- What has been built of an automaton. -/
structure Meter where
  /-- How many states there are. -/
  states : Nat := 0
  /-- Octets that the states hold beside their own: transitions and alternatives. -/
  extra : Nat := 0
  deriving Repr, DecidableEq

namespace Meter

/-- The memory that the states take: each takes 32 octets and what it holds. -/
def octets (m : Meter) : Nat := 32 * m.states + m.extra

/-- Whether the limit is passed. What is built later cannot change that. -/
def isFull (m : Meter) : Bool := sizeLimit < m.octets

/-- One more state, with what it holds. -/
def add (m : Meter) (extra : Nat) : Meter := { states := m.states + 1, extra := m.extra + extra }

/-- Some more octets, held by a state that is there. -/
def hold (m : Meter) (extra : Nat) : Meter := { m with extra := m.extra + extra }

/-- Octets of some transitions. -/
def transitions (count : Nat) : Nat := 8 * count

/-- Octets of some alternatives. -/
def alternatives (count : Nat) : Nat := 4 * count

end Meter

/-- A part of an automaton. -/
structure Part where
  /-- Builds the part and tells whether it ends in a choice. -/
  build : Meter → Meter × Bool
  /-- The octets of a part that reads nothing but these. -/
  word : Option (List Nat) := none

namespace Part

/-- Links the end of what was built to what follows; a choice gets one more alternative. -/
def link (built : Meter × Bool) : Meter :=
  if built.2 then built.1.hold (Meter.alternatives 1) else built.1

/-- A single state. -/
def state : Part where
  build m := (m.add 0, false)

/-- Reads these octets, one state for each. -/
def ofWord (octets : List Nat) : Part where
  build m := ({ m with states := m.states + octets.length }, false)
  word := some octets

/-- The part `q` after the part `p`. -/
def next (p q : Part) : Part where
  build m := q.build (link (p.build m))
  word := do return (← p.word) ++ (← q.word)

/-- The part some more times after what was built. -/
def more (p : Part) : Nat → Meter × Bool → Meter × Bool
  | 0, built => built
  | n + 1, built => if built.1.isFull then built else p.more n (p.build (link built))

/-- The part `n` times; no time at all is a single state. -/
def copies (p : Part) (n : Nat) : Part where
  build m := match n with
    | 0 => state.build m
    | n + 1 => p.more n (p.build m)

/-- The part up to `n` more times after what was built, each time behind a choice that may leave
for the common end. -/
def optional (p : Part) : Nat → Meter × Bool → Meter × Bool
  | 0, built => built
  | n + 1, built =>
    if built.1.isFull then built
    else
      let (m, choice) := p.build ((link built).add 0)
      p.optional n (m.hold (Meter.alternatives 2), choice)

/-- The part at least `min` times and, if there is a `max`, no more often. A part that is repeated
without end and may take nothing has two choices, one to go on and one to start at all. -/
def repeated (p : Part) (takes : Bool) (min : Nat) (max : Option Nat) : Part where
  build m :=
    match min, max with
    | 0, some 1 => (((link (p.build (m.add 0))).hold (Meter.alternatives 2)).add 0, false)
    | 0, none =>
      if takes then ((link (p.build (m.add 0))).hold (Meter.alternatives 1), true)
      else
        let m := link (p.build m)
        ((((m.add 0).add 0).add 0).hold (Meter.alternatives 4), false)
    | min, none => ((link ((p.copies min).build m)).add (Meter.alternatives 1), true)
    | min, some max =>
      let (m, choice) := (p.copies min).build m
      if min == max then (m, choice) else (link (p.optional (max - min) (m.add 0, choice)), false)

/-- One branch of a choice: the choice leads to it, and it leads to the common end. -/
def branch (m : Meter) (p : Part) : Meter := (link (p.build m)).hold (Meter.alternatives 1)

/-- The choice between some parts. The choice itself and the common end come after the first
two branches. -/
def choice : List Part → Part
  | p :: q :: ps => { build m := (ps.foldl branch (((branch (branch m p) q).add 0).add 0), false) }
  | [p] => p
  | [] => state

end Part

end Footprint

end BringUp.Pattern
