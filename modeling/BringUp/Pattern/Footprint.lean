import BringUp.Pattern.Expr
import BringUp.Pattern.Footprint.Set
import BringUp.Pattern.Footprint.Words

/-!
# How large the automaton of a pattern is

A pattern is refused if its automaton over octets would take more memory than `sizeLimit`. The
automaton is weighed for both directions of reading: forwards it also remembers the places of
groups. The pattern has to fit in both.
-/

namespace BringUp.Pattern

open Footprint

namespace Expr

/-- The fewest characters that the expression takes; `none` if some branch of it never matches. -/
def least? : Expr → Option Nat
  | empty | look _ => some 0
  | set s => if s.isEmpty then none else some 1
  | cat a b => do return (← a.least?) + (← b.least?)
  | alt a b => do return Nat.min (← a.least?) (← b.least?)
  | rep e min _ _ => do return min * (← e.least?)
  | group _ e => e.least?

/-- Whether every match starts at the start of the text or, `backward`, ends at its end. -/
def isAnchored (backward : Bool) : Expr → Bool
  | empty | set _ => false
  | look a => a == if backward then .textEnd else .textStart
  | cat a b =>
    if backward then b.isAnchored backward || (b.zeroWidth && a.isAnchored backward)
    else a.isAnchored backward || (a.zeroWidth && b.isAnchored backward)
  | alt a b => a.isAnchored backward && b.isAnchored backward
  | rep e min _ _ => min != 0 && e.isAnchored backward
  | group _ e => e.isAnchored backward

end Expr

namespace Footprint

/-- One of the parts. Words that are the only branches of a choice are a tree. -/
def Part.oneOf (parts : List Part) : Part :=
  match parts, parts.mapM (·.word) with
  | [p], _ => p
  | _, some words => Words.part words
  | _, none => .choice parts

/-- The parts of the branches of an expression. -/
def Part.ofBranches (backward : Bool) : Expr → List Part
  | .empty | .look _ => [.state]
  | .set s => [.ofSet backward s]
  | .cat a b =>
    let first := oneOf (ofBranches backward a)
    let second := oneOf (ofBranches backward b)
    [if backward then second.next first else first.next second]
  | .alt a b => ofBranches backward a ++ ofBranches backward b
  | .rep e min max _ =>
    let takes := match e.least? with
      | some n => n != 0
      | none => false
    [(oneOf (ofBranches backward e)).repeated takes min max]
  | .group _ e =>
    let body := oneOf (ofBranches backward e)
    [if backward then { body with word := none } else (state.next body).next state]

/-- The weight of the whole automaton. Unless the expression is anchored, what is before the match
is read in three states, one of them a choice. -/
def ofExpr (backward : Bool) (e : Expr) : Meter :=
  let body := Part.oneOf (Part.ofBranches backward e)
  let whole : Part := if backward then body.next .state
    else ((Part.state.next body).next .state).next .state
  let nothing : Meter := {}
  let before :=
    if e.isAnchored backward then nothing.add 0
    else ((nothing.add (Meter.alternatives 2)).add 0).add (Meter.transitions 1)
  (whole.build before).1

end Footprint

/-- Whether the automaton of the expression fits, in both directions. -/
def Expr.fits (e : Expr) : Bool :=
  !(Footprint.ofExpr false e).isFull && !(Footprint.ofExpr true e).isFull

end BringUp.Pattern
