import BringUp.Pattern.Expr

/-!
# Programs of patterns

An expression is compiled into nodes that name the nodes after them. `compile e next` adds the
nodes of `e` and gives the place where `e` starts; where `e` ends the node `next` follows.
-/

namespace BringUp.Pattern

/-- One node of a program. -/
inductive Node where
  /-- Takes a character of the set. -/
  | take (s : Unicode.CharSet) (next : Nat)
  /-- Goes on where the assertion holds. -/
  | look (a : Look) (next : Nat)
  /-- Remembers the place in a slot. -/
  | save (slot next : Nat)
  /-- Goes on at either node, the first preferred. -/
  | split (first second : Nat)
  /-- The whole pattern has matched. -/
  | accept
  deriving Repr, Inhabited

/-- The nodes of a pattern. -/
abbrev Nodes := Array Node

namespace Node

/-- The place of the node when it is put after the others, and all nodes then. -/
def emit (node : Node) (nodes : Nodes) : Nat × Nodes := (nodes.size, nodes.push node)

/-- The choice between one more round and going on. -/
def round (greedy : Bool) (body next : Nat) : Node :=
  if greedy then .split body next else .split next body

end Node

/-- Applies a step of compilation `n` times, each before what is there already. -/
def iterate (step : Nat → Nodes → Nat × Nodes) : Nat → Nat → Nodes → Nat × Nodes
  | 0, next, nodes => (next, nodes)
  | n + 1, next, nodes =>
    let (next, nodes) := step next nodes
    iterate step n next nodes

/-- Adds the nodes of an expression that the node `next` follows. -/
def Expr.compile : Expr → Nat → Nodes → Nat × Nodes
  | .empty, next, nodes => (next, nodes)
  | .set s, next, nodes => (Node.take s next).emit nodes
  | .look a, next, nodes => (Node.look a next).emit nodes
  | .cat a b, next, nodes =>
    let (second, nodes) := b.compile next nodes
    a.compile second nodes
  | .alt a b, next, nodes =>
    let (first, nodes) := a.compile next nodes
    let (second, nodes) := b.compile next nodes
    (Node.split first second).emit nodes
  | .group index e, next, nodes =>
    let (close, nodes) := (Node.save (2 * index + 1) next).emit nodes
    let (body, nodes) := e.compile close nodes
    (Node.save (2 * index) body).emit nodes
  | .rep e min max greedy, next, nodes =>
    let (rounds, start, nodes) := match max with
      | some max =>
        -- Each round beyond the least is optional, and the later ones lie inside the earlier.
        let (start, nodes) := iterate (fun inner nodes =>
          let (body, nodes) := e.compile inner nodes
          (Node.round greedy body next).emit nodes) (max - min) next nodes
        (min, start, nodes)
      | none =>
        let loop := nodes.size
        let (body, nodes) := e.compile loop (nodes.push .accept)
        let nodes := nodes.set! loop (Node.round greedy body next)
        if min == 0 then
          if e.nullable then
            let (start, nodes) := (Node.round greedy body next).emit nodes
            (0, start, nodes)
          else (0, loop, nodes)
        else (min - 1, body, nodes)
    iterate e.compile rounds start nodes

/-- A compiled pattern: where it starts and its nodes. -/
structure Program where
  /-- The nodes. -/
  nodes : Nodes
  /-- The place of the first node. -/
  start : Nat
  deriving Repr, Inhabited

/-- The program of an expression. Slots 0 and 1 hold the ends of the whole match. -/
def Program.ofExpr (e : Expr) : Program :=
  let (start, nodes) := (Expr.group 0 e).compile 0 #[.accept]
  { nodes, start }

end BringUp.Pattern
