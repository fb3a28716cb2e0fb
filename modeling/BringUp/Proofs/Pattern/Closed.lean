import BringUp.Pattern.Program

/-!
# What compilation adds

Compilation only adds nodes behind those that are there, and every node goes on at nodes that exist.
The loop of a repetition is the one node that goes on at nodes added after it: its place is kept
while the body is compiled, and it is put there then.

* `Closed`: every node goes on at nodes that exist.
* `Extends`: what compilation makes of the nodes that are there.
* `Expr.compile_extends`: compilation only adds to nodes, by induction on the expression.
* `Program.ofExpr_extends`: so the program of an expression is closed, and the first node accepts.
-/

namespace BringUp.Pattern

/-- The nodes at which a node goes on. -/
def Node.targets : Node → List Nat
  | .take _ next | .look _ next | .save _ next => [next]
  | .split first second => [first, second]
  | .accept => []

/-- Every node goes on at nodes that exist. -/
def Closed (nodes : Nodes) : Prop := ∀ node ∈ nodes, ∀ target ∈ node.targets, target < nodes.size

/-- A place to start among nodes that were made by adding to others. -/
structure Extends (nodes : Nodes) (added : Nat × Nodes) : Prop where
  /-- The place exists. -/
  start_lt : added.1 < added.2.size
  /-- The nodes are closed. -/
  closed : Closed added.2
  /-- No node is dropped. -/
  size_le : nodes.size ≤ added.2.size
  /-- No node is changed. -/
  kept : ∀ k < nodes.size, added.2[k]? = nodes[k]?

variable {nodes : Nodes} {node : Node} {next : Nat} {added : Nat × Nodes}

/-- Nothing may be added. -/
theorem Closed.extends (h : Closed nodes) (hnext : next < nodes.size) :
    Extends nodes (next, nodes) := ⟨hnext, h, Nat.le_refl _, fun _ _ => rfl⟩

/-- What was added to added nodes was added. -/
theorem Extends.trans {more : Nat × Nodes} (h : Extends nodes added) (h' : Extends added.2 more) :
    Extends nodes more where
  start_lt := h'.start_lt
  closed := h'.closed
  size_le := Nat.le_trans h.size_le h'.size_le
  kept k hk := (h'.kept k (Nat.lt_of_lt_of_le hk h.size_le)).trans (h.kept k hk)

/-- Any of the nodes may be the start. -/
theorem Extends.startAt {place : Nat} (h : Extends nodes added) (hplace : place < added.2.size) :
    Extends nodes (place, added.2) := ⟨hplace, h.closed, h.size_le, h.kept⟩

/-- A node whose targets exist may be added. -/
theorem Closed.emit (h : Closed nodes) (node : Node)
    (hnode : ∀ target ∈ node.targets, target < nodes.size) : Extends nodes (node.emit nodes) where
  start_lt := by
    rw [Node.emit, Array.size_push]
    omega
  closed := by
    intro other hother target htarget
    rw [Node.emit, Array.size_push]
    rcases Array.mem_push.1 hother with hold | rfl
    · have := h other hold target htarget
      omega
    · have := hnode target htarget
      omega
  size_le := by
    rw [Node.emit, Array.size_push]
    omega
  kept k hk := by
    rw [Node.emit, Array.getElem?_push_lt hk, Array.getElem?_eq_getElem hk]

/-- An added node may be replaced by one whose targets exist. -/
theorem Extends.set (h : Extends nodes added) {place : Nat} (hplace : nodes.size ≤ place)
    (hnode : ∀ target ∈ node.targets, target < added.2.size) :
    Extends nodes (added.1, added.2.set! place node) := by
  have hsize : (added.2.set! place node).size = added.2.size := by
    rw [Array.set!_eq_setIfInBounds, Array.size_setIfInBounds]
  refine ⟨by rw [hsize]; exact h.start_lt, ?_, by rw [hsize]; exact h.size_le, ?_⟩
  · intro other hother target htarget
    rw [hsize]
    rw [Array.set!_eq_setIfInBounds] at hother
    rcases Array.mem_or_eq_of_mem_setIfInBounds hother with hold | rfl
    · exact h.closed other hold target htarget
    · exact hnode target htarget
  · intro k hk
    have hne : place ≠ k := by omega
    rw [Array.set!_eq_setIfInBounds, Array.getElem?_setIfInBounds_ne hne, h.kept k hk]

/-- A choice between a body and what follows it goes on at nodes that exist. -/
theorem Extends.round (h : Extends nodes added) (greedy : Bool) (hnext : next < nodes.size) :
    ∀ target ∈ (Node.round greedy added.1 next).targets, target < added.2.size := by
  intro target htarget
  have := h.start_lt
  have := h.size_le
  cases greedy <;> simp only [Node.round, Node.targets, Bool.false_eq_true, if_true, if_false,
    List.mem_cons, List.not_mem_nil, or_false] at htarget <;> omega

/-- Steps that each only add to nodes only add to them together. Each may rely on the nodes that
were there at the beginning. -/
theorem iterate_extends {base : Nodes} {step : Nat → Nodes → Nat × Nodes}
    (hstep : ∀ inner others, base.size ≤ others.size → inner < others.size → Closed others →
      Extends others (step inner others))
    (n : Nat) (hbase : base.size ≤ nodes.size) (hnext : next < nodes.size) (h : Closed nodes) :
    Extends nodes (iterate step n next nodes) := by
  induction n generalizing next nodes with
  | zero => exact h.extends hnext
  | succ n ih =>
    have hfirst := hstep next nodes hbase hnext h
    exact hfirst.trans (ih (Nat.le_trans hbase hfirst.size_le) hfirst.start_lt hfirst.closed)

section

variable {step : Nat → Nodes → Nat × Nodes}
  (hstep : ∀ {next nodes}, next < nodes.size → Closed nodes → Extends nodes (step next nodes))

include hstep

/-- A round that may be left out goes on where all rounds end. -/
theorem optional_extends (greedy : Bool) {base : Nodes} (hnext : next < base.size) :
    ∀ inner others, base.size ≤ others.size → inner < others.size → Closed others →
      Extends others ((Node.round greedy (step inner others).1 next).emit
        (step inner others).2) := by
  intro inner others hle hinner hothers
  have hbody := hstep hinner hothers
  have hround := hbody.round greedy (Nat.lt_of_lt_of_le hnext hle)
  exact hbody.trans (hbody.closed.emit _ hround)

/-- The nodes with a loop: its place is kept, and the loop is put there when its body is known. -/
def loopNodes (step : Nat → Nodes → Nat × Nodes) (greedy : Bool) (next : Nat) (nodes : Nodes) :
    Nodes :=
  let (body, others) := step nodes.size (nodes.push .accept)
  others.set! nodes.size (.round greedy body next)

/-- A loop may be started at its choice or at its body. -/
theorem loop_extends (greedy : Bool) (hnext : next < nodes.size) (h : Closed nodes) :
    Extends (nodes.push .accept) (step nodes.size (nodes.push .accept)) ∧
      Extends nodes (nodes.size, loopNodes step greedy next nodes) ∧
      Extends nodes ((step nodes.size (nodes.push .accept)).1,
        loopNodes step greedy next nodes) := by
  have hkept : Extends nodes (Node.accept.emit nodes) := h.emit .accept (by simp [Node.targets])
  have hbody := hstep hkept.start_lt hkept.closed
  have hround := hbody.round greedy (Nat.lt_of_lt_of_le hnext hkept.size_le)
  have hloop := (hkept.trans hbody).set (Nat.le_refl _) hround
  refine ⟨hbody, hloop.startAt ?_, hloop⟩
  rw [Array.set!_eq_setIfInBounds, Array.size_setIfInBounds]
  exact Nat.lt_of_lt_of_le hkept.start_lt hbody.size_le

end

/-- Compilation only adds to nodes and starts at one of them. -/
theorem Expr.compile_extends (e : Expr) (hnext : next < nodes.size) (h : Closed nodes) :
    Extends nodes (e.compile next nodes) := by
  induction e generalizing next nodes with
  | empty => exact h.extends hnext
  | set s => exact h.emit _ (by simpa [Node.targets])
  | look a => exact h.emit _ (by simpa [Node.targets])
  | cat a b iha ihb =>
    have hb := ihb hnext h
    exact hb.trans (iha hb.start_lt hb.closed)
  | alt a b iha ihb =>
    have ha := iha hnext h
    have hb := ihb (Nat.lt_of_lt_of_le hnext ha.size_le) ha.closed
    have hfirst := Nat.lt_of_lt_of_le ha.start_lt hb.size_le
    have hsplit := hb.closed.emit (.split _ _) (by simpa [Node.targets] using
      ⟨hfirst, hb.start_lt⟩)
    exact (ha.trans hb).trans hsplit
  | group index e ih =>
    have hclose := h.emit (.save (2 * index + 1) next) (by simpa [Node.targets])
    have hbody := ih hclose.start_lt hclose.closed
    have hopen := hbody.closed.emit (.save (2 * index) _) (by simpa [Node.targets] using
      hbody.start_lt)
    exact (hclose.trans hbody).trans hopen
  | rep e min max greedy ih =>
    -- The rounds that must be made lie before whatever the others come to.
    have hrounds : ∀ n {added}, Extends nodes added →
        Extends nodes (iterate e.compile n added.1 added.2) := by
      intro n added hadded
      have hbodies : ∀ inner others, nodes.size ≤ others.size → inner < others.size →
          Closed others → Extends others (e.compile inner others) := fun _ _ _ => ih
      exact hadded.trans
        (iterate_extends hbodies n hadded.size_le hadded.start_lt hadded.closed)
    cases max with
    | some max =>
      exact hrounds min
        (iterate_extends (optional_extends ih greedy hnext) _ (Nat.le_refl _) hnext h)
    | none =>
      obtain ⟨-, hloop, hbody⟩ := loop_extends ih greedy hnext h
      simp only [Expr.compile]
      by_cases hmin : (min == 0) = true
      · by_cases hnullable : e.nullable = true
        · simp only [if_pos hmin, if_pos hnullable]
          exact hrounds 0 (hbody.trans (hbody.closed.emit _ (hbody.round greedy hnext)))
        · simp only [if_pos hmin, if_neg hnullable]
          exact hrounds 0 hloop
      · simp only [if_neg hmin]
        exact hrounds (min - 1) hbody

/-- The node that accepts goes on nowhere. -/
theorem closed_accept : Closed #[.accept] := by
  intro node hnode target htarget
  simp_all [Node.targets]

/-- The program of an expression only adds to the node that accepts. -/
theorem Program.ofExpr_extends (e : Expr) :
    Extends #[.accept] ((Program.ofExpr e).start, (Program.ofExpr e).nodes) :=
  (Expr.group 0 e).compile_extends (by simp) closed_accept

end BringUp.Pattern
