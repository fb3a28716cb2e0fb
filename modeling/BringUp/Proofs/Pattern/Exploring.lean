import BringUp.Proofs.Pattern.Ways
import Mathlib.Data.Set.Insert
import Mathlib.Tactic.ByContra

/-!
# Trying ways in their order

The search tries the ways in their order and tries no spot twice. So it may come to a spot that it
has tried on another way, and skips it there. Nothing is lost by this: either there is no way from
that spot, or its ways come back to a spot which is still being tried.

* `Program.Untried`: a way that leaves out the spots that were tried.
* `Program.Explores`: the steps of a search, without their bound.
* `Program.Outcome`: what a search should give, the preferred way of the first branch that has one.
* `Program.Explores.outcome`: it does give that, by induction on its steps.
-/

namespace BringUp.Pattern

/-- The spot that a branch goes on from. -/
def Branch.spot (b : Branch) : Spot := { node := b.node, place := b.place }

namespace Program

variable (p : Program) (text : Array Char)

/-- The branches that go on from a branch, with what it remembers. -/
def onward (b : Branch) : List Branch :=
  (p.next text b.spot).map fun s =>
    { node := s.node, place := s.place, slots := p.save b.spot b.slots }

/-- A way that is nowhere twice and leaves out the spots that were tried. -/
structure Untried (tried : Set Spot) (s : Spot) (way : List Spot) : Prop where
  /-- It is a way. -/
  isWay : p.Way text s way
  /-- It is nowhere twice. -/
  nodup : way.Nodup
  /-- It leaves out what was tried. -/
  fresh : ∀ x ∈ way, x ∉ tried

/-- There is no way from a spot that leaves out the spots that were tried. -/
def Dead (tried : Set Spot) (s : Spot) : Prop := ∀ way, ¬ p.Untried text tried s way

/-- The steps of a search, without their bound: from the spots that were tried and the branches that
wait, to what is found and the spots tried then. -/
inductive Explores : Set Spot → List Branch → Option Slots → Set Spot → Prop where
  /-- No branch is left. -/
  | done {tried : Set Spot} : Explores tried [] none tried
  /-- The spot was tried before. -/
  | skip {tried tried' : Set Spot} {b : Branch} {rest : List Branch} {found : Option Slots} :
      b.spot ∈ tried → Explores tried rest found tried' → Explores tried (b :: rest) found tried'
  /-- The pattern is matched. -/
  | accept {tried : Set Spot} {b : Branch} {rest : List Branch} {slots : Slots} :
      b.spot ∉ tried → p.advance text b = .inl slots →
      Explores tried (b :: rest) (some slots) (insert b.spot tried)
  /-- The branches from the spot are tried first. -/
  | step {tried tried' : Set Spot} {b : Branch} {rest ways : List Branch} {found : Option Slots} :
      b.spot ∉ tried → p.advance text b = .inr ways →
      Explores (insert b.spot tried) (ways ++ rest) found tried' →
      Explores tried (b :: rest) found tried'

/-- What a search gives, by the spots that were tried before and the branches that waited. -/
inductive Outcome (tried : Set Spot) (stack : List Branch) : Option Slots → Set Spot → Prop where
  /-- The first branch that has a way goes along the one that is preferred. -/
  | found {tried' : Set Spot} {before after : List Branch} {b : Branch} {way : List Spot} :
      stack = before ++ b :: after → (∀ c ∈ before, p.Dead text tried c.spot) →
      p.Untried text tried b.spot way →
      (∀ way', p.Untried text tried b.spot way' → way' = way ∨ p.Preferred text way way') →
      Outcome tried stack (some (p.record way b.slots)) tried'
  /-- No branch has a way, and neither has a spot that was tried on the way. -/
  | none {tried' : Set Spot} : (∀ b ∈ stack, p.Dead text tried b.spot) →
      (∀ s ∈ tried', s ∈ tried ∨ p.Dead text tried s) → Outcome tried stack none tried'

variable {p text} {tried tried' : Set Spot} {s t x : Spot} {way : List Spot} {b : Branch}
  {stack rest : List Branch} {found : Option Slots}

/-! ### Where a branch goes on -/

/-- A branch that accepts gives what it remembers. -/
theorem advance_of_accept (text : Array Char) (h : p.nodes[b.node]? = some .accept) :
    p.advance text b = .inl b.slots := by
  rw [advance, h]

/-- Any other branch goes on at the next spots and remembers what is to be remembered. -/
theorem advance_of_ne_accept (text : Array Char) (h : p.nodes[b.node]? ≠ some .accept) :
    p.advance text b = .inr (p.onward text b) := by
  rw [onward, Branch.spot, advance, next, save]
  cases hnode : p.nodes[b.node]? with
  | none => rfl
  | some node =>
    cases node with
    | take set next =>
      simp only
      cases text[b.place]? with
      | none => rfl
      | some c => by_cases hc : set.contains c = true <;> simp [hc]
    | look a next =>
      simp only
      generalize (if b.place = 0 then none else text[b.place - 1]?) = before
      split <;> rfl
    | save slot next => rfl
    | split first second => rfl
    | accept => exact absurd hnode h

/-- Where the pattern is matched no way goes on. -/
theorem next_of_accept (h : p.nodes[s.node]? = some .accept) : p.next text s = [] := by
  rw [next, h]

/-- Nothing is remembered where the pattern is matched. -/
theorem save_of_accept (h : p.nodes[s.node]? = some .accept) (slots : Slots) :
    p.save s slots = slots := by
  rw [save, h]

/-! ### Ways that leave out what was tried -/

/-- A way does not leave out where it starts. -/
theorem Untried.notMem (h : p.Untried text tried s way) : s ∉ tried := by
  obtain ⟨more, rfl⟩ := h.isWay.exists_cons
  exact h.fresh s List.mem_cons_self

/-- There is no way from what was tried. -/
theorem dead_of_mem (h : s ∈ tried) : p.Dead text tried s := fun _ hway => hway.notMem h

/-- A way goes on to a way that also leaves out where it was. -/
theorem Untried.cases (h : p.Untried text tried s way) :
    p.nodes[s.node]? = some .accept ∧ way = [s] ∨ ∃ t ∈ p.next text s, ∃ more,
      way = s :: more ∧ p.Untried text (insert s tried) t more := by
  obtain ⟨hway, hnodup, hfresh⟩ := h
  cases hway with
  | accept haccept => exact .inl ⟨haccept, rfl⟩
  | @step _ t more hnext hmore =>
    obtain ⟨hs, hnodup⟩ := List.nodup_cons.1 hnodup
    refine .inr ⟨t, hnext, more, rfl, hmore, hnodup, ?_⟩
    rintro x hx (rfl | htried)
    · exact hs hx
    · exact hfresh x (List.mem_cons_of_mem _ hx) htried

/-- A way may be put behind a spot that it leaves out. -/
theorem Untried.cons (h : p.Untried text (insert s tried) t way) (hs : s ∉ tried)
    (hnext : t ∈ p.next text s) : p.Untried text tried s (s :: way) where
  isWay := .step hnext h.isWay
  nodup := List.nodup_cons.2 ⟨fun hmem => h.fresh s hmem (Set.mem_insert s tried), h.nodup⟩
  fresh := by
    intro x hx htried
    rcases List.mem_cons.1 hx with rfl | hx
    · exact hs htried
    · exact h.fresh x hx (Set.mem_insert_of_mem s htried)

/-- A way that leaves out more spots leaves out fewer. -/
theorem Untried.of_insert (h : p.Untried text (insert s tried) x way) :
    p.Untried text tried x way :=
  ⟨h.isWay, h.nodup, fun y hy htried => h.fresh y hy (Set.mem_insert_of_mem s htried)⟩

/-- If there is no way from a spot, other ways leave it out: what is left of them there would be a
way from it. -/
theorem Untried.insert (h : p.Untried text tried x way) (hs : p.Dead text tried s) :
    p.Untried text (insert s tried) x way := by
  refine ⟨h.isWay, h.nodup, ?_⟩
  rintro y hy (rfl | htried)
  · obtain ⟨front, back, rfl, hback⟩ := h.isWay.exists_from hy
    exact hs back ⟨hback, (List.nodup_append.1 h.nodup).2.1, fun z hz =>
      h.fresh z (List.mem_append_right front hz)⟩
  · exact h.fresh y hy htried

/-- A spot from which no way leaves out a dead spot is dead. -/
theorem Dead.of_insert (h : p.Dead text (insert s tried) x) (hs : p.Dead text tried s) :
    p.Dead text tried x := fun way hway => h way (hway.insert hs)

/-- A spot is dead if the spots after it are. -/
theorem dead_of_next (haccept : p.nodes[s.node]? ≠ some .accept)
    (h : ∀ t ∈ p.next text s, p.Dead text (insert s tried) t) : p.Dead text tried s := by
  intro way hway
  rcases hway.cases with ⟨hacc, -⟩ | ⟨t, ht, more, -, hmore⟩
  · exact haccept hacc
  · exact h t ht more hmore

/-! ### The way that a search finds -/

/-- A spot where the pattern is matched has one way. -/
theorem outcome_of_accept (hs : b.spot ∉ tried) (h : p.nodes[b.node]? = some .accept) :
    p.Outcome text tried (b :: rest) (some b.slots) tried' := by
  have hway : p.Untried text tried b.spot [b.spot] :=
    ⟨.accept h, by simp, by simpa using hs⟩
  have hrecord : p.record [b.spot] b.slots = b.slots := save_of_accept h b.slots
  rw [← hrecord]
  have hstack : b :: rest = [] ++ b :: rest := rfl
  refine .found hstack (fun c hc => absurd hc List.not_mem_nil) hway ?_
  intro way' hway'
  rcases hway'.cases with ⟨-, rfl⟩ | ⟨t, ht, -⟩
  · exact .inl rfl
  · rw [next_of_accept h] at ht
    cases ht

/-- A branch whose spot is dead may be left out. -/
theorem Outcome.cons (h : p.Outcome text tried rest found tried') (hb : p.Dead text tried b.spot) :
    p.Outcome text tried (b :: rest) found tried' := by
  cases h with
  | @found _ before after c way hstack hbefore hway hfirst =>
    have hcons : b :: rest = (b :: before) ++ c :: after := by rw [hstack, List.cons_append]
    refine .found hcons ?_ hway hfirst
    intro c hc
    rcases List.mem_cons.1 hc with rfl | hc
    · exact hb
    · exact hbefore c hc
  | none hstack htried =>
    refine .none ?_ htried
    intro c hc
    rcases List.mem_cons.1 hc with rfl | hc
    · exact hb
    · exact hstack c hc

/-- Dead spots may be forgotten. -/
theorem Outcome.of_insert (h : p.Outcome text (insert s tried) rest found tried')
    (hs : p.Dead text tried s) : p.Outcome text tried rest found tried' := by
  cases h with
  | found hstack hbefore hway hfirst =>
    exact .found hstack (fun c hc => (hbefore c hc).of_insert hs) hway.of_insert fun way' hway' =>
      hfirst way' (hway'.insert hs)
  | none hstack htried =>
    refine .none (fun c hc => (hstack c hc).of_insert hs) ?_
    intro x hx
    rcases htried x hx with (rfl | hmem) | hdead
    · exact .inr hs
    · exact .inl hmem
    · exact .inr (hdead.of_insert hs)

/-- Of two lists of branches the first one decides, unless it has no way. -/
theorem Outcome.of_append {ways : List Branch}
    (h : p.Outcome text tried (ways ++ rest) found tried') :
    (∃ slots, found = some slots ∧ p.Outcome text tried ways (some slots) tried') ∨
      (∀ b ∈ ways, p.Dead text tried b.spot) ∧ p.Outcome text tried rest found tried' := by
  cases h with
  | @found _ before after b way hstack hbefore hway hfirst =>
    -- The branch that is found stands in the second list, or in the first one unless what is left
    -- of that list is empty.
    rcases List.append_eq_append_iff.1 hstack with ⟨more, rfl, hrest⟩ | ⟨more, hways, hafter⟩
    · exact .inr ⟨fun c hc => hbefore c (List.mem_append_left more hc),
        .found hrest (fun c hc => hbefore c (List.mem_append_right ways hc)) hway hfirst⟩
    · cases more with
      | nil =>
        rw [List.append_nil] at hways
        subst hways
        have hrest : rest = [] ++ b :: after := hafter.symm
        exact .inr ⟨hbefore, .found hrest (fun c hc => absurd hc List.not_mem_nil) hway hfirst⟩
      | cons c more =>
        injection hafter with hb hafter
        subst hb
        exact .inl ⟨_, rfl, .found hways hbefore hway hfirst⟩
  | none hstack htried =>
    exact .inr ⟨fun b hb => hstack b (List.mem_append_left rest hb),
      .none (fun b hb => hstack b (List.mem_append_right ways hb)) htried⟩

/-- A way goes on at two spots at most. -/
theorem length_next_le (s : Spot) : (p.next text s).length ≤ 2 := by
  rw [next]
  cases p.nodes[s.node]? with
  | none => exact Nat.zero_le 2
  | some node =>
    cases node with
    | take set next =>
      simp only
      cases text[s.place]? with
      | none => exact Nat.zero_le 2
      | some c => by_cases hc : set.contains c = true <;> simp [hc]
    | look a next =>
      simp only
      generalize (if s.place = 0 then none else text[s.place - 1]?) = before
      by_cases hlook : a.holds before text[s.place]? = true <;> simp [hlook]
    | save slot next => exact Nat.le_succ 1
    | split first second => exact Nat.le_refl 2
    | accept => exact Nat.zero_le 2

/-- The preferred way from the first spot after `s` that has one, with `s` before it, is preferred
over all others from `s`. -/
theorem first_cons {front back : List Spot} (hnext : p.next text s = front ++ t :: back)
    (hfront : ∀ u ∈ front, p.Dead text (insert s tried) u)
    (hway : p.Untried text (insert s tried) t way)
    (hfirst : ∀ way', p.Untried text (insert s tried) t way' →
      way' = way ∨ p.Preferred text way way')
    {way' : List Spot} (hway' : p.Untried text tried s way') :
    way' = s :: way ∨ p.Preferred text (s :: way) way' := by
  rcases hway'.cases with ⟨haccept, -⟩ | ⟨u, hu, more, rfl, hmore⟩
  · rw [next_of_accept haccept] at hnext
    simp at hnext
  by_cases hut : u = t
  · subst hut
    rcases hfirst more hmore with rfl | hbefore
    · exact .inl rfl
    · exact .inr (.later hbefore)
  · rw [hnext] at hu
    rcases List.mem_append.1 hu with hu | hu
    · exact absurd hmore (hfront u hu more)
    · -- There are two spots at most, so that `t` and `u` are both of them.
      have hback : u ∈ back := (List.mem_cons.1 hu).resolve_left hut
      have hlength : (p.next text s).length ≤ 2 := length_next_le s
      have hpos := List.length_pos_of_mem hback
      rw [hnext, List.length_append, List.length_cons] at hlength
      obtain rfl : front = [] := List.length_eq_zero_iff.1 (by omega)
      obtain ⟨v, rfl⟩ := List.length_eq_one_iff.1 (show back.length = 1 by omega)
      obtain rfl := List.mem_singleton.1 hback
      obtain ⟨rest, rfl⟩ := hway.isWay.exists_cons
      obtain ⟨rest', rfl⟩ := hmore.isWay.exists_cons
      exact .inr (.here hnext (Ne.symm hut))

/-- Where the pattern is not yet matched, the branches that go on decide. -/
theorem outcome_of_step (hs : b.spot ∉ tried) (haccept : p.nodes[b.node]? ≠ some .accept)
    (h : p.Outcome text (insert b.spot tried) (p.onward text b ++ rest) found tried') :
    p.Outcome text tried (b :: rest) found tried' := by
  rcases h.of_append with ⟨slots, rfl, hways⟩ | ⟨hdead, hrest⟩
  · cases hways with
    | @found _ before after c way hmap hbefore hway hfirst =>
      obtain ⟨front, back, hnext, rfl, hback⟩ := List.map_eq_append_iff.1 hmap
      obtain ⟨t, back, rfl, rfl, -⟩ := List.map_eq_cons_iff.1 hback
      have hfront : ∀ u ∈ front, p.Dead text (insert b.spot tried) u := fun u hu =>
        hbefore _ (List.mem_map_of_mem hu)
      have ht : t ∈ p.next text b.spot := by simp [hnext]
      have hstack : b :: rest = [] ++ b :: rest := rfl
      show p.Outcome text tried (b :: rest) (some (p.record (b.spot :: way) b.slots)) tried'
      exact .found hstack (fun c hc => absurd hc List.not_mem_nil) (hway.cons hs ht)
        fun way' hway' => first_cons hnext hfront hway hfirst hway'
  · have hspot : p.Dead text tried b.spot :=
      dead_of_next haccept fun t ht => hdead _ (List.mem_map_of_mem ht)
    exact (hrest.of_insert hspot).cons hspot

/-- A search gives the preferred way of the first branch that has one. The induction is on its
steps. -/
theorem Explores.outcome (h : p.Explores text tried stack found tried') :
    p.Outcome text tried stack found tried' := by
  induction h with
  | done => exact .none (fun b hb => absurd hb List.not_mem_nil) fun s hs => .inl hs
  | skip hmem _ ih => exact ih.cons (dead_of_mem hmem)
  | @accept tried b rest slots hs hadvance =>
    by_cases haccept : p.nodes[b.node]? = some .accept
    · rw [advance_of_accept text haccept] at hadvance
      cases hadvance
      exact outcome_of_accept hs haccept
    · rw [advance_of_ne_accept text haccept] at hadvance
      cases hadvance
  | @step tried tried' b rest ways found hs hadvance _ ih =>
    by_cases haccept : p.nodes[b.node]? = some .accept
    · rw [advance_of_accept text haccept] at hadvance
      cases hadvance
    · rw [advance_of_ne_accept text haccept] at hadvance
      cases hadvance
      exact outcome_of_step hs haccept ih

end Program

end BringUp.Pattern
