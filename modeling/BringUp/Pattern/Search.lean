import BringUp.Pattern.Program

/-!
# Searching a text

The search tries the places of the text from the left and, at each, the ways through the program
in their order of preference, so the first way found is the leftmost and most preferred match. A
node that failed at a place once fails there always, so each pair of node and place is tried once:
the work is bounded by nodes times places, whatever the pattern.
-/

namespace BringUp.Pattern

/-- The places that a match remembers, by slot. -/
abbrev Slots := Array (Option Nat)

/-- A way through the program that is still to be tried. -/
structure Branch where
  /-- The node to try. -/
  node : Nat
  /-- The place in the text. -/
  place : Nat
  /-- What the way has remembered so far. -/
  slots : Slots

namespace Program

/-- The ways on from a node, the preferred one first, or the slots of a finished match. -/
def advance (p : Program) (text : Array Char) (b : Branch) : Slots ⊕ List Branch :=
  match p.nodes[b.node]? with
  | some .accept => .inl b.slots
  | some (.take s next) =>
    match text[b.place]? with
    | some c => .inr (if s.contains c then [{ b with node := next, place := b.place + 1 }] else [])
    | none => .inr []
  | some (.look a next) =>
    let before := if b.place = 0 then none else text[b.place - 1]?
    .inr (if a.holds before text[b.place]? then [{ b with node := next }] else [])
  | some (.save slot next) =>
    .inr [{ b with node := next, slots := b.slots.setIfInBounds slot (some b.place) }]
  | some (.split first second) => .inr [{ b with node := first }, { b with node := second }]
  | none => .inr []

/-- Tries the ways in their order, skipping pairs of node and place tried before. Gives the slots
of the first match and the pairs tried. -/
def explore (p : Program) (text : Array Char) :
    Nat → Array Bool → List Branch → Option Slots × Array Bool
  | 0, tried, _ => (none, tried)
  | _ + 1, tried, [] => (none, tried)
  | fuel + 1, tried, b :: rest =>
    let pair := b.place * p.nodes.size + b.node
    if tried.getD pair true then explore p text fuel tried rest
    else
      let tried := tried.set! pair true
      match p.advance text b with
      | .inl slots => (some slots, tried)
      | .inr ways => explore p text fuel tried (ways ++ rest)

/-- Tries the places from `place` on; `count` are left. -/
def searchFrom (p : Program) (text : Array Char) (slots : Slots) (fuel : Nat) :
    Nat → Nat → Array Bool → Option Slots
  | 0, _, _ => none
  | count + 1, place, tried =>
    match p.explore text fuel tried [{ node := p.start, place, slots }] with
    | (some found, _) => some found
    | (none, tried) => searchFrom p text slots fuel count (place + 1) tried

/-- The slots of the leftmost match of a pattern with that many groups. Each of the pairs of node
and place is tried once and leads to two ways at most, which bounds the number of steps. -/
def search (p : Program) (captures : Nat) (text : Array Char) : Option Slots :=
  let places := text.size + 1
  let pairs := p.nodes.size * places
  p.searchFrom text (Array.replicate (2 * captures + 2) none) (2 * pairs + 2) places 0
    (Array.replicate pairs false)

end Program

end BringUp.Pattern
