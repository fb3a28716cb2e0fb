import BringUp.Proofs.Pattern.Closed
import BringUp.Proofs.Pattern.Ways
import Mathlib.Logic.Function.Iterate

/-!
# A program has a way where its expression fits

What an expression means is told by the parts of a text that fit it. Compilation keeps this meaning:
the nodes that it adds lead from the start of the expression to what follows it, over just those
parts of the text that fit. So there is a way through the program of an expression from a place if
some part of the text from there fits, and only then.

* `Expr.Fits`: the parts of a text that fit an expression.
* `Program.Implements`: nodes lead over the parts of a text that are in a relation.
* `Program.implements_compile`: compilation keeps the meaning, by induction on the expression.
* `Program.exists_way_iff_fits`: where there is a way through the program of an expression.
-/

namespace BringUp.Pattern

/-- So many rounds, one after the other. -/
def Rounds (round : Nat → Nat → Prop) : Nat → Nat → Nat → Prop
  | 0, i, j => i = j
  | n + 1, i, k => ∃ j, round i j ∧ Rounds round n j k

/-- The part of a text from one place to another fits an expression. -/
def Expr.Fits (text : Array Char) : Expr → Nat → Nat → Prop
  | .empty, i, j => i = j
  | .set s, i, j => j = i + 1 ∧ ∃ c, text[i]? = some c ∧ s.contains c = true
  | .look a, i, j => i = j ∧ a.holds (if i = 0 then none else text[i - 1]?) text[i]? = true
  | .cat first second, i, k => ∃ j, first.Fits text i j ∧ second.Fits text j k
  | .alt first second, i, j => first.Fits text i j ∨ second.Fits text i j
  | .group _ body, i, j => body.Fits text i j
  | .rep body min max _, i, j =>
    ∃ n, (∀ m, max = some m → n ≤ m - min) ∧ Rounds (body.Fits text) (min + n) i j

namespace Program

variable (p : Program) (text : Array Char)

/-- The nodes of a program at the places where nodes were added. -/
def Includes (nodes added : Nodes) : Prop :=
  ∀ k, nodes.size ≤ k → k < added.size → p.nodes[k]? = added[k]?

/-- From one node the ways lead to another one, over the parts of the text that are in a relation:
each way comes to it over such a part, and over each such part there is a way to it. -/
structure Implements (R : Nat → Nat → Prop) (start next : Nat) : Prop where
  /-- A way comes to the node. What is left of it is no longer than the way. -/
  comes : ∀ {i way}, p.Way text { node := start, place := i } way → ∃ j rest, R i j ∧
    p.Way text { node := next, place := j } rest ∧ rest.length ≤ way.length
  /-- There is a way to the node. -/
  leads : ∀ {i j rest}, R i j → p.Way text { node := next, place := j } rest →
    ∃ way, p.Way text { node := start, place := i } way

variable {p text} {R S : Nat → Nat → Prop} {start middle next : Nat} {nodes : Nodes}
  {added : Nat × Nodes}

/-! ### Putting nodes together -/

/-- What is included is included in parts. -/
theorem Includes.left {more : Nat × Nodes} (h : p.Includes nodes more.2)
    (hmore : Extends added.2 more) : p.Includes nodes added.2 := fun k hle hlt =>
  (h k hle (Nat.lt_of_lt_of_le hlt hmore.size_le)).trans (hmore.kept k hlt)

/-- What is included is included in parts. -/
theorem Includes.right {more : Nodes} (h : p.Includes nodes more) (hadded : Extends nodes added) :
    p.Includes added.2 more := fun k hle hlt => h k (Nat.le_trans hadded.size_le hle) hlt

/-- The node that was added last. -/
theorem Includes.node {node : Node} (h : p.Includes nodes (nodes.push node)) :
    p.nodes[nodes.size]? = some node := by
  rw [h nodes.size (Nat.le_refl _) (by simp)]
  simp

/-- A node that was put at the place kept for it, and the nodes added meanwhile. -/
theorem Includes.set {node kept : Node} (h : p.Includes nodes (added.2.set! nodes.size node))
    (hadded : Extends (nodes.push kept) added) :
    p.nodes[nodes.size]? = some node ∧ p.Includes (nodes.push kept) added.2 := by
  have hsize := hadded.size_le
  rw [Array.size_push] at hsize
  rw [Array.set!_eq_setIfInBounds] at h
  constructor
  · rw [h nodes.size (Nat.le_refl _) (by rw [Array.size_setIfInBounds]; omega),
      Array.getElem?_setIfInBounds_self_of_lt (by omega)]
  · intro k hle hlt
    rw [Array.size_push] at hle
    have hne : nodes.size ≠ k := by omega
    rw [h k (by omega) (by rwa [Array.size_setIfInBounds]), Array.getElem?_setIfInBounds_ne hne]

/-- Nothing lies between a node and itself. -/
theorem implements_self (next : Nat) : p.Implements text Eq next next where
  comes hway := ⟨_, _, rfl, hway, Nat.le_refl _⟩
  leads := by
    rintro i _ rest rfl hrest
    exact ⟨rest, hrest⟩

/-- Relations that hold of the same parts are the same. -/
theorem Implements.congr (h : p.Implements text R start next) (hR : ∀ i j, R i j ↔ S i j) :
    p.Implements text S start next := by
  obtain rfl : R = S := funext fun i => funext fun j => propext (hR i j)
  exact h

/-- One thing after the other. -/
theorem Implements.trans (h : p.Implements text R start middle)
    (h' : p.Implements text S middle next) :
    p.Implements text (fun i k => ∃ j, R i j ∧ S j k) start next where
  comes hway := by
    obtain ⟨j, rest, hR, hrest, hle⟩ := h.comes hway
    obtain ⟨k, rest', hS, hrest', hle'⟩ := h'.comes hrest
    exact ⟨k, rest', ⟨j, hR, hS⟩, hrest', Nat.le_trans hle' hle⟩
  leads := by
    rintro i k rest ⟨j, hR, hS⟩ hrest
    obtain ⟨way, hway⟩ := h'.leads hS hrest
    exact h.leads hR hway

/-- A node that goes on at one other node. -/
theorem implements_node (haccept : p.nodes[start]? ≠ some .accept)
    (hnext : ∀ i t, t ∈ p.next text { node := start, place := i } ↔
      ∃ j, t = { node := next, place := j } ∧ R i j) : p.Implements text R start next where
  comes := by
    intro i way hway
    cases hway with
    | accept h => exact absurd h haccept
    | step ht hrest =>
      obtain ⟨j, rfl, hR⟩ := (hnext i _).1 ht
      exact ⟨j, _, hR, hrest, Nat.le_succ _⟩
  leads := by
    intro i j rest hR hrest
    exact ⟨_, .step ((hnext i _).2 ⟨j, rfl, hR⟩) hrest⟩

/-- A node that takes a character. -/
theorem implements_take {s : Unicode.CharSet} (h : p.nodes[start]? = some (.take s next)) :
    p.Implements text ((Expr.set s).Fits text) start next := by
  refine implements_node (by simp [h]) fun i t => ?_
  simp only [Program.next, h, Expr.Fits]
  cases text[i]? with
  | none => simp
  | some c => by_cases hc : s.contains c = true <;> simp [hc]

/-- A node that looks around. -/
theorem implements_look {a : Look} (h : p.nodes[start]? = some (.look a next)) :
    p.Implements text ((Expr.look a).Fits text) start next := by
  refine implements_node (by simp [h]) fun i t => ?_
  simp only [Program.next, h, Expr.Fits]
  generalize (if i = 0 then none else text[i - 1]?) = before
  by_cases hlook : a.holds before text[i]? = true <;> simp [hlook]

/-- A node that remembers a place. -/
theorem implements_save {slot : Nat} (h : p.nodes[start]? = some (.save slot next)) :
    p.Implements text Eq start next := by
  refine implements_node (by simp [h]) fun i t => ?_
  simp [Program.next, h]

/-- A node that goes on at two nodes. -/
theorem implements_split {first second : Nat}
    (hnode : p.nodes[start]? = some (.split first second)) (h : p.Implements text R first next)
    (h' : p.Implements text S second next) :
    p.Implements text (fun i j => R i j ∨ S i j) start next where
  comes := by
    intro i way hway
    cases hway with
    | accept haccept => simp [hnode] at haccept
    | step ht hway =>
      simp only [Program.next, hnode, List.mem_cons, List.not_mem_nil, or_false] at ht
      rcases ht with rfl | rfl
      · obtain ⟨j, rest, hR, hrest, hle⟩ := h.comes hway
        exact ⟨j, rest, .inl hR, hrest, Nat.le_succ_of_le hle⟩
      · obtain ⟨j, rest, hS, hrest, hle⟩ := h'.comes hway
        exact ⟨j, rest, .inr hS, hrest, Nat.le_succ_of_le hle⟩
  leads := by
    rintro i j rest (hR | hS) hrest
    · obtain ⟨way, hway⟩ := h.leads hR hrest
      exact ⟨_, .step (by simp [Program.next, hnode]) hway⟩
    · obtain ⟨way, hway⟩ := h'.leads hS hrest
      exact ⟨_, .step (by simp [Program.next, hnode]) hway⟩

/-- A choice between one more round and going on, whichever is preferred. -/
theorem mem_next_round {greedy : Bool} {body i : Nat} {t : Spot}
    (hnode : p.nodes[start]? = some (.round greedy body next)) :
    t ∈ p.next text { node := start, place := i } ↔
      t = { node := body, place := i } ∨ t = { node := next, place := i } := by
  cases greedy with
  | true => simp [Program.next, hnode, Node.round]
  | false => simp [Program.next, hnode, Node.round, or_comm]

/-- Such a choice does not accept. -/
theorem round_ne_accept {greedy : Bool} {body : Nat} : Node.round greedy body next ≠ .accept := by
  cases greedy <;> simp [Node.round]

/-- A round that may be left out. -/
theorem implements_round {greedy : Bool} {body : Nat}
    (hnode : p.nodes[start]? = some (.round greedy body next))
    (h : p.Implements text R body next) :
    p.Implements text (fun i j => i = j ∨ R i j) start next := by
  cases greedy with
  | true => exact (implements_split hnode h (implements_self next)).congr fun i j => Or.comm
  | false => exact implements_split hnode (implements_self next) h

/-- A loop: a choice between going on and a round that comes back. The induction is on the way,
which gets shorter with each round, and on the number of rounds. -/
theorem implements_loop {greedy : Bool} {body : Nat}
    (hnode : p.nodes[start]? = some (.round greedy body next))
    (h : p.Implements text R body start) :
    p.Implements text (fun i j => ∃ n, Rounds R n i j) start next where
  comes := by
    intro i way hway
    induction hlength : way.length using Nat.strongRecOn generalizing i way with
    | _ length ih =>
      cases hway with
      | accept haccept =>
        rw [hnode, Option.some.injEq] at haccept
        exact absurd haccept round_ne_accept
      | @step _ _ way ht hway =>
        rw [List.length_cons] at hlength
        rcases (mem_next_round hnode).1 ht with rfl | rfl
        · obtain ⟨j, rest, hR, hrest, hle⟩ := h.comes hway
          obtain ⟨k, rest', ⟨n, hrounds⟩, hrest', hle'⟩ := ih rest.length (by omega) hrest rfl
          exact ⟨k, rest', ⟨n + 1, j, hR, hrounds⟩, hrest', by omega⟩
        · exact ⟨i, way, ⟨0, rfl⟩, hway, by omega⟩
  leads := by
    rintro i j rest ⟨n, hrounds⟩ hrest
    induction n generalizing i with
    | zero =>
      obtain rfl : i = j := hrounds
      exact ⟨_, .step ((mem_next_round hnode).2 (.inr rfl)) hrest⟩
    | succ n ih =>
      obtain ⟨k, hR, hrounds⟩ := hrounds
      obtain ⟨way, hway⟩ := ih hrounds
      obtain ⟨way', hway'⟩ := h.leads hR hway
      exact ⟨_, .step ((mem_next_round hnode).2 (.inl rfl)) hway'⟩

/-! ### Steps of compilation, one before the other -/

/-- Steps that each put something before what is there put it there as often as they are made. -/
theorem implements_iterate {base : Nodes} {step : Nat → Nodes → Nat × Nodes}
    (hstep : ∀ inner others, base.size ≤ others.size → inner < others.size → Closed others →
      Extends others (step inner others))
    (F : (Nat → Nat → Prop) → Nat → Nat → Prop)
    (hF : ∀ inner others R, base.size ≤ others.size → inner < others.size → Closed others →
      p.Includes others (step inner others).2 → p.Implements text R inner next →
      p.Implements text (F R) (step inner others).1 next)
    (n : Nat) {inner : Nat} (hbase : base.size ≤ nodes.size) (hinner : inner < nodes.size)
    (hclosed : Closed nodes) (hincludes : p.Includes nodes (iterate step n inner nodes).2)
    (h : p.Implements text R inner next) :
    p.Implements text (F^[n] R) (iterate step n inner nodes).1 next := by
  induction n generalizing inner nodes R with
  | zero => exact h
  | succ n ih =>
    have hfirst := hstep inner nodes hbase hinner hclosed
    have hbase' := Nat.le_trans hbase hfirst.size_le
    have hrest : Extends (step inner nodes).2
        (iterate step n (step inner nodes).1 (step inner nodes).2) :=
      iterate_extends hstep n hbase' hfirst.start_lt hfirst.closed
    have hone := hF inner nodes R hbase hinner hclosed (hincludes.left hrest) h
    exact ih hbase' hfirst.start_lt hfirst.closed (hincludes.right hfirst) hone

/-- Rounds before something. -/
theorem iterate_before_iff (n : Nat) {i j : Nat} :
    (fun S i k => ∃ j, R i j ∧ S j k)^[n] S i j ↔ ∃ k, Rounds R n i k ∧ S k j := by
  induction n generalizing i with
  | zero => simp [Rounds]
  | succ n ih =>
    rw [Function.iterate_succ_apply']
    simp only [ih, Rounds]
    constructor
    · rintro ⟨k, hR, l, hrounds, hS⟩
      exact ⟨l, ⟨k, hR, hrounds⟩, hS⟩
    · rintro ⟨l, ⟨k, hR, hrounds⟩, hS⟩
      exact ⟨k, hR, l, hrounds, hS⟩

/-- Rounds that may each be left out, with all after it. -/
theorem iterate_optional_iff (n : Nat) {i j : Nat} :
    (fun S i k => i = k ∨ ∃ j, R i j ∧ S j k)^[n] Eq i j ↔ ∃ m ≤ n, Rounds R m i j := by
  induction n generalizing i with
  | zero => simp [Rounds]
  | succ n ih =>
    rw [Function.iterate_succ_apply']
    simp only [ih]
    constructor
    · rintro (rfl | ⟨k, hR, m, hm, hrounds⟩)
      · exact ⟨0, Nat.zero_le _, rfl⟩
      · exact ⟨m + 1, Nat.succ_le_succ hm, k, hR, hrounds⟩
    · rintro ⟨m, hm, hrounds⟩
      cases m with
      | zero => exact .inl hrounds
      | succ m =>
        obtain ⟨k, hR, hrounds⟩ := hrounds
        exact .inr ⟨k, hR, m, Nat.le_of_succ_le_succ hm, hrounds⟩

/-- Rounds are added up. -/
theorem rounds_add_iff (m n : Nat) {i j : Nat} :
    Rounds R (m + n) i j ↔ ∃ k, Rounds R m i k ∧ Rounds R n k j := by
  induction m generalizing i with
  | zero => simp [Rounds]
  | succ m ih =>
    rw [Nat.succ_add]
    simp only [Rounds, ih]
    constructor
    · rintro ⟨k, hR, l, hm, hn⟩
      exact ⟨l, ⟨k, hR, hm⟩, hn⟩
    · rintro ⟨l, ⟨k, hR, hm⟩, hn⟩
      exact ⟨k, hR, l, hm, hn⟩

/-- The last of the rounds. -/
theorem rounds_succ_iff (n : Nat) {i j : Nat} :
    Rounds R (n + 1) i j ↔ ∃ k, Rounds R n i k ∧ R k j := by
  rw [rounds_add_iff n 1]
  simp [Rounds]

/-- Any number of rounds are none, or one and any number. -/
theorem exists_rounds_iff {i j : Nat} :
    (∃ n, Rounds R n i j) ↔ i = j ∨ ∃ k, R i k ∧ ∃ n, Rounds R n k j := by
  constructor
  · rintro ⟨n, hrounds⟩
    cases n with
    | zero => exact .inl hrounds
    | succ n =>
      obtain ⟨k, hR, hrounds⟩ := hrounds
      exact .inr ⟨k, hR, n, hrounds⟩
  · rintro (rfl | ⟨k, hR, n, hrounds⟩)
    · exact ⟨0, rfl⟩
    · exact ⟨n + 1, k, hR, hrounds⟩

/-- A bounded repetition makes the rounds that it must and no more others than it may. -/
theorem fits_rep_some_iff {e : Expr} {min max : Nat} {greedy : Bool} {i j : Nat} :
    (Expr.rep e min (some max) greedy).Fits text i j ↔ ∃ k, Rounds (e.Fits text) min i k ∧
      ∃ n ≤ max - min, Rounds (e.Fits text) n k j := by
  simp only [Expr.Fits, Option.some.injEq, forall_eq', rounds_add_iff]
  constructor
  · rintro ⟨n, hn, k, hmin, hmore⟩
    exact ⟨k, hmin, n, hn, hmore⟩
  · rintro ⟨k, hmin, n, hn, hmore⟩
    exact ⟨n, hn, k, hmin, hmore⟩

/-- A repetition without a bound makes the rounds that it must and any others. -/
theorem fits_rep_none_iff {e : Expr} {min : Nat} {greedy : Bool} {i j : Nat} :
    (Expr.rep e min none greedy).Fits text i j ↔ ∃ k, Rounds (e.Fits text) min i k ∧
      ∃ n, Rounds (e.Fits text) n k j := by
  simp only [Expr.Fits, reduceCtorEq, false_implies, implies_true, true_and, rounds_add_iff]
  exact exists_comm.trans (exists_congr fun k => exists_and_left)

section

variable {e : Expr} (he : ∀ {next : Nat} {nodes : Nodes}, next < nodes.size → Closed nodes →
  p.Includes nodes (e.compile next nodes).2 →
    p.Implements text (e.Fits text) (e.compile next nodes).1 next)

include he

/-- Rounds that must be made lie before whatever was added already. -/
theorem implements_rounds (n : Nat) (hadded : Extends nodes added)
    (hS : p.Includes nodes added.2 → p.Implements text S added.1 next)
    (h : p.Includes nodes (iterate e.compile n added.1 added.2).2) :
    p.Implements text (fun i j => ∃ k, Rounds (e.Fits text) n i k ∧ S k j)
      (iterate e.compile n added.1 added.2).1 next := by
  have hbodies : ∀ inner others, nodes.size ≤ others.size → inner < others.size →
      Closed others → Extends others (e.compile inner others) := fun _ _ _ => e.compile_extends
  have hiterate := iterate_extends hbodies n hadded.size_le hadded.start_lt hadded.closed
  have hbefore := implements_iterate hbodies (fun S i k => ∃ j, e.Fits text i j ∧ S j k)
    (fun inner others S _ hinner hothers hincludes hS => (he hinner hothers hincludes).trans hS)
    n hadded.size_le hadded.start_lt hadded.closed (h.right hadded) (hS (h.left hiterate))
  exact hbefore.congr fun i j => iterate_before_iff n

/-- Rounds that may be left out lie inside each other. -/
theorem implements_optional (greedy : Bool) (n : Nat) (hnext : next < nodes.size)
    (hclosed : Closed nodes) (h : p.Includes nodes (iterate (fun inner nodes =>
      (Node.round greedy (e.compile inner nodes).1 next).emit (e.compile inner nodes).2)
      n next nodes).2) :
    p.Implements text (fun i j => ∃ m ≤ n, Rounds (e.Fits text) m i j)
      (iterate (fun inner nodes => (Node.round greedy (e.compile inner nodes).1 next).emit
        (e.compile inner nodes).2) n next nodes).1 next := by
  have hone : ∀ inner others (S : Nat → Nat → Prop), nodes.size ≤ others.size →
      inner < others.size → Closed others →
      p.Includes others ((Node.round greedy (e.compile inner others).1 next).emit
        (e.compile inner others).2).2 →
      p.Implements text S inner next →
      p.Implements text (fun i k => i = k ∨ ∃ j, e.Fits text i j ∧ S j k)
        ((Node.round greedy (e.compile inner others).1 next).emit (e.compile inner others).2).1
        next := by
    intro inner others S hle hinner hothers hincludes hS
    have hbody := e.compile_extends hinner hothers
    have hround := hbody.closed.emit _ (hbody.round greedy (Nat.lt_of_lt_of_le hnext hle))
    have hrest := (he hinner hothers (hincludes.left hround)).trans hS
    exact implements_round (hincludes.right hbody).node hrest
  have hall := implements_iterate (optional_extends e.compile_extends greedy hnext) _ hone n
    (Nat.le_refl _) hnext hclosed h (implements_self next)
  exact hall.congr fun i j => iterate_optional_iff n

/-- A loop at the place that was kept for it, and its body. -/
theorem implements_kept_loop (greedy : Bool) (hnext : next < nodes.size) (hclosed : Closed nodes)
    (h : p.Includes nodes (loopNodes e.compile greedy next nodes)) :
    p.Implements text (fun i j => ∃ n, Rounds (e.Fits text) n i j) nodes.size next ∧
      p.Implements text (fun i k => ∃ j, e.Fits text i j ∧ ∃ n, Rounds (e.Fits text) n j k)
        (e.compile nodes.size (nodes.push .accept)).1 next := by
  obtain ⟨hbody, -⟩ := loop_extends e.compile_extends greedy hnext hclosed
  obtain ⟨hnode, hincludes⟩ := h.set hbody
  have hkept := hclosed.emit .accept (by simp [Node.targets])
  have hround := he hkept.start_lt hkept.closed hincludes
  have hloop := implements_loop hnode hround
  exact ⟨hloop, hround.trans hloop⟩

end

/-- Compilation keeps the meaning of an expression: the nodes that it adds lead over the parts of
the text that fit. -/
theorem implements_compile (e : Expr) (hnext : next < nodes.size) (hclosed : Closed nodes)
    (h : p.Includes nodes (e.compile next nodes).2) :
    p.Implements text (e.Fits text) (e.compile next nodes).1 next := by
  induction e generalizing next nodes with
  | empty => exact implements_self next
  | set s => exact implements_take h.node
  | look a => exact implements_look h.node
  | cat a b iha ihb =>
    have hb := b.compile_extends hnext hclosed
    have ha := a.compile_extends hb.start_lt hb.closed
    exact (iha hb.start_lt hb.closed (h.right hb)).trans (ihb hnext hclosed (h.left ha))
  | alt a b iha ihb =>
    have ha := a.compile_extends hnext hclosed
    have hnext' := Nat.lt_of_lt_of_le hnext ha.size_le
    have hb := b.compile_extends hnext' ha.closed
    have hfirst := Nat.lt_of_lt_of_le ha.start_lt hb.size_le
    have hsplit := hb.closed.emit (.split _ _) (by simpa [Node.targets] using
      ⟨hfirst, hb.start_lt⟩)
    exact implements_split (h.right (ha.trans hb)).node
      (iha hnext hclosed (h.left (hb.trans hsplit)))
      (ihb hnext' ha.closed ((h.right ha).left hsplit))
  | group index e ih =>
    have hclose := hclosed.emit (.save (2 * index + 1) next) (by simpa [Node.targets])
    have hbody := e.compile_extends hclose.start_lt hclose.closed
    have hopen := hbody.closed.emit (.save (2 * index) _) (by simpa [Node.targets] using
      hbody.start_lt)
    have hfirst : p.Implements text Eq _ _ := implements_save (h.right (hclose.trans hbody)).node
    have hlast : p.Implements text Eq _ _ := implements_save (h.left (hbody.trans hopen)).node
    have hmiddle := ih hclose.start_lt hclose.closed ((h.right hclose).left hopen)
    exact ((hfirst.trans hmiddle).trans hlast).congr (by simp [Expr.Fits])
  | rep e min max greedy ih =>
    cases max with
    | some max =>
      have hoptional := optional_extends e.compile_extends greedy hnext
      have hrounds := implements_rounds ih min
        (iterate_extends hoptional (max - min) (Nat.le_refl _) hnext hclosed)
        (implements_optional ih greedy (max - min) hnext hclosed) h
      exact hrounds.congr fun i j => fits_rep_some_iff.symm
    | none =>
      obtain ⟨-, hchoice, hbody⟩ := loop_extends e.compile_extends greedy hnext hclosed
      have hloop := fun hincludes => implements_kept_loop ih greedy hnext hclosed hincludes
      simp only [Expr.compile] at h ⊢
      by_cases hmin : (min == 0) = true
      · obtain rfl : min = 0 := by simpa using hmin
        by_cases hnullable : e.nullable = true
        · simp only [if_pos hmin, if_pos hnullable] at h ⊢
          have hfirst := hbody.closed.emit _ (hbody.round greedy hnext)
          have hrounds := implements_rounds ih 0 (hbody.trans hfirst) (fun hincludes =>
            implements_round (hincludes.right hbody).node (hloop (hincludes.left hfirst)).2) h
          simp only [← exists_rounds_iff] at hrounds
          exact hrounds.congr fun i j => fits_rep_none_iff.symm
        · simp only [if_pos hmin, if_neg hnullable] at h ⊢
          have hrounds := implements_rounds ih 0 hchoice (fun hincludes => (hloop hincludes).1) h
          exact hrounds.congr fun i j => fits_rep_none_iff.symm
      · -- The body of the loop is the last of the rounds that must be made.
        simp only [if_neg hmin] at h ⊢
        obtain ⟨m, rfl⟩ : ∃ m, min = m + 1 := ⟨min - 1, by simp at hmin; omega⟩
        have hrounds := implements_rounds ih m hbody (fun hincludes => (hloop hincludes).2) h
        refine hrounds.congr fun i j => ?_
        simp only [fits_rep_none_iff, rounds_succ_iff]
        constructor
        · rintro ⟨k, hfirst, l, hlast, hmore⟩
          exact ⟨l, ⟨k, hfirst, hlast⟩, hmore⟩
        · rintro ⟨l, ⟨k, hfirst, hlast⟩, hmore⟩
          exact ⟨k, hfirst, l, hlast, hmore⟩

/-- There is a way through the program of an expression from a place if some part of the text from
there fits, and only then. -/
theorem exists_way_iff_fits (e : Expr) (i : Nat) :
    (∃ way, (ofExpr e).Way text { node := (ofExpr e).start, place := i } way) ↔
      ∃ j, e.Fits text i j := by
  have hincludes : (ofExpr e).Includes #[.accept] ((Expr.group 0 e).compile 0 #[.accept]).2 :=
    fun _ _ _ => rfl
  have himplements : (ofExpr e).Implements text (e.Fits text) (ofExpr e).start 0 :=
    implements_compile (.group 0 e) (by simp) closed_accept hincludes
  have haccept : (ofExpr e).nodes[0]? = some .accept := (ofExpr_extends e).kept 0 (by simp)
  constructor
  · rintro ⟨way, hway⟩
    obtain ⟨j, -, hfits, -⟩ := himplements.comes hway
    exact ⟨j, hfits⟩
  · rintro ⟨j, hfits⟩
    exact himplements.leads hfits (.accept haccept)

end Program

end BringUp.Pattern
