import BringUp.Proofs.Pattern.Closed
import BringUp.Proofs.Pattern.Exploring

/-!
# The search finds the leftmost and most preferred match

The search marks the spots that it has tried in a table and tries the places of the text from the
left. The number of its steps has a bound that it never reaches. The table is kept from one place to
the next, since there is no way from any spot that was tried for a place in vain.

* `Program.explores_explore`: a bounded search takes all the steps that it needs.
* `Program.search_eq_some_iff`, `Program.search_eq_none_iff`: what the search of a text gives.
* `Program.isSome_search`: whether there is a match does not depend on what is remembered.
-/

namespace BringUp.Pattern

namespace Program

variable {p : Program} {text : Array Char} {tried : Set Spot} {s t x : Spot} {way : List Spot}
  {b : Branch} {table : Array Bool}

/-! ### The table of tried spots and the bound on the steps -/

variable (p text) in
/-- A spot of the program and the text. -/
structure InRange (s : Spot) : Prop where
  /-- There is such a node. -/
  node_lt : s.node < p.nodes.size
  /-- There is such a place. -/
  place_le : s.place ≤ text.size

variable (p) in
/-- The place of a spot in the table of tried spots. -/
def number (s : Spot) : Nat := s.place * p.nodes.size + s.node

variable (p text) in
/-- The spots that a table marks. -/
def marked (table : Array Bool) : Set Spot :=
  {s | p.InRange text s ∧ table[p.number s]? = some true}

/-- A table of all spots has a place for each of them. -/
theorem InRange.number_lt (h : p.InRange text s) :
    p.number s < p.nodes.size * (text.size + 1) := by
  have hrow : s.place * p.nodes.size ≤ text.size * p.nodes.size :=
    Nat.mul_le_mul_right _ h.place_le
  have := h.node_lt
  rw [number, Nat.mul_add, Nat.mul_one, Nat.mul_comm p.nodes.size]
  omega

/-- No two spots have the same place in the table. -/
theorem InRange.number_inj (hs : p.InRange text s) (ht : p.InRange text t)
    (h : p.number s = p.number t) : s = t := by
  have hpos : 0 < p.nodes.size := Nat.lt_of_le_of_lt (Nat.zero_le _) hs.node_lt
  have hnode : ∀ {u}, p.InRange text u → p.number u % p.nodes.size = u.node := by
    intro u hu
    rw [number, Nat.mul_comm, Nat.mul_add_mod, Nat.mod_eq_of_lt hu.node_lt]
  have hplace : ∀ {u}, p.InRange text u → p.number u / p.nodes.size = u.place := by
    intro u hu
    rw [number, Nat.mul_comm, Nat.mul_add_div hpos, Nat.div_eq_of_lt hu.node_lt, Nat.add_zero]
  obtain ⟨node, place⟩ := s
  obtain ⟨node', place'⟩ := t
  have heq := hnode hs
  have heq' := hplace hs
  rw [h, hnode ht] at heq
  rw [h, hplace ht] at heq'
  simp only at heq heq'
  rw [heq, heq']

/-- A way stays in the program and the text. -/
theorem InRange.of_next (hclosed : Closed p.nodes) (hs : p.InRange text s)
    (h : t ∈ p.next text s) : p.InRange text t := by
  rw [next] at h
  cases hnode : p.nodes[s.node]? with
  | none => simp [hnode] at h
  | some node =>
    have htarget := hclosed node (Array.mem_of_getElem? hnode)
    rw [hnode] at h
    cases node with
    | take set next =>
      simp only at h
      cases htext : text[s.place]? with
      | none => simp [htext] at h
      | some c =>
        obtain ⟨hplace, -⟩ := Array.getElem?_eq_some_iff.1 htext
        simp only [htext] at h
        split at h
        · obtain rfl := List.mem_singleton.1 h
          exact ⟨htarget next List.mem_cons_self, hplace⟩
        · cases h
    | look a next =>
      simp only at h
      generalize (if s.place = 0 then none else text[s.place - 1]?) = before at h
      split at h
      · obtain rfl := List.mem_singleton.1 h
        exact ⟨htarget next List.mem_cons_self, hs.place_le⟩
      · cases h
    | save slot next =>
      obtain rfl := List.mem_singleton.1 h
      exact ⟨htarget next List.mem_cons_self, hs.place_le⟩
    | split first second =>
      rcases List.mem_cons.1 h with rfl | h
      · exact ⟨htarget first List.mem_cons_self, hs.place_le⟩
      · obtain rfl := List.mem_singleton.1 h
        exact ⟨htarget second (List.mem_cons_of_mem _ List.mem_cons_self), hs.place_le⟩
    | accept => cases h

/-- A look into the table tells whether a spot was tried. -/
theorem InRange.getD_iff (hs : p.InRange text s)
    (htable : table.size = p.nodes.size * (text.size + 1)) :
    table.getD (p.number s) true = true ↔ s ∈ p.marked text table := by
  have hlt : p.number s < table.size := htable ▸ hs.number_lt
  rw [Array.getD_eq_getD_getElem?, Array.getElem?_eq_getElem hlt, Option.getD_some]
  constructor
  · intro htrue
    exact ⟨hs, by rw [Array.getElem?_eq_getElem hlt, htrue]⟩
  · rintro ⟨-, hmarked⟩
    rwa [Array.getElem?_eq_getElem hlt, Option.some.injEq] at hmarked

/-- Marking a spot marks no other one. -/
theorem InRange.marked_set (hs : p.InRange text s)
    (htable : table.size = p.nodes.size * (text.size + 1)) :
    p.marked text (table.set! (p.number s) true) = insert s (p.marked text table) := by
  have hlt : p.number s < table.size := htable ▸ hs.number_lt
  ext t
  simp only [marked, Set.mem_insert_iff, Set.mem_ofPred_eq, Array.set!_eq_setIfInBounds,
    Array.getElem?_setIfInBounds, if_pos hlt]
  by_cases hst : p.number s = p.number t
  · rw [if_pos hst]
    constructor
    · rintro ⟨ht, -⟩
      exact .inl (ht.number_inj hs hst.symm)
    · rintro (rfl | ⟨ht, -⟩)
      · exact ⟨hs, rfl⟩
      · exact ⟨ht, rfl⟩
  · rw [if_neg hst]
    constructor
    · exact .inr
    · rintro (rfl | ht)
      · exact absurd rfl hst
      · exact ht

/-- Marking a spot that was not tried leaves one fewer to try. -/
theorem InRange.count_set (hs : p.InRange text s)
    (htable : table.size = p.nodes.size * (text.size + 1)) (hfresh : s ∉ p.marked text table) :
    (table.set! (p.number s) true).count false + 1 = table.count false := by
  have hlt : p.number s < table.size := htable ▸ hs.number_lt
  have hfalse : table[p.number s] = false := by
    by_contra htrue
    exact hfresh ⟨hs, by rw [Array.getElem?_eq_getElem hlt]; simpa using htrue⟩
  have hpos : 0 < table.count false := Array.count_pos_iff.2 (hfalse ▸ Array.getElem_mem hlt)
  rw [Array.set!_eq_setIfInBounds, Array.setIfInBounds, dif_pos hlt, Array.count_set, hfalse]
  -- One `false` is taken out of the table, and no other is put in its place.
  have htaken : (if (false == false) = true then 1 else 0) = 1 := rfl
  have hput : (if (true == false) = true then 1 else 0) = 0 := rfl
  rw [htaken, hput]
  omega

/-- The bound on the steps is never reached: each of them takes a branch from the stack, and for
each spot that is marked two branches at most are put on it. -/
theorem explores_explore (hclosed : Closed p.nodes) {fuel : Nat} {stack : List Branch}
    (htable : table.size = p.nodes.size * (text.size + 1))
    (hstack : ∀ b ∈ stack, p.InRange text b.spot)
    (hfuel : stack.length + 2 * table.count false ≤ fuel) :
    p.Explores text (p.marked text table) stack (p.explore text fuel table stack).1
        (p.marked text (p.explore text fuel table stack).2) ∧
      (p.explore text fuel table stack).2.size = table.size := by
  induction fuel generalizing table stack with
  | zero =>
    obtain rfl : stack = [] := List.length_eq_zero_iff.1 (by omega)
    exact ⟨.done, rfl⟩
  | succ fuel ih =>
    cases stack with
    | nil => exact ⟨.done, rfl⟩
    | cons b rest =>
      have hb := hstack b List.mem_cons_self
      have hrest : ∀ c ∈ rest, p.InRange text c.spot := fun c hc =>
        hstack c (List.mem_cons_of_mem b hc)
      have hpair : b.place * p.nodes.size + b.node = p.number b.spot := rfl
      rw [List.length_cons] at hfuel
      rw [explore, hpair]
      by_cases htried : b.spot ∈ p.marked text table
      · -- The stack is shorter by one branch, and the table is the same.
        rw [if_pos ((hb.getD_iff htable).2 htried)]
        obtain ⟨hexplores, hsize⟩ := ih htable hrest (by omega)
        exact ⟨.skip htried hexplores, hsize⟩
      · rw [if_neg (mt (hb.getD_iff htable).1 htried)]
        have hset : (table.set! (p.number b.spot) true).size = table.size := by
          rw [Array.set!_eq_setIfInBounds, Array.size_setIfInBounds]
        by_cases haccept : p.nodes[b.node]? = some .accept
        · have hadvance := advance_of_accept text haccept
          rw [hadvance]
          refine ⟨?_, hset⟩
          rw [hb.marked_set htable]
          exact .accept htried hadvance
        · have hadvance := advance_of_ne_accept text haccept
          have hways : ∀ c ∈ p.onward text b ++ rest, p.InRange text c.spot := by
            intro c hc
            rcases List.mem_append.1 hc with hc | hc
            · obtain ⟨s, hs, rfl⟩ := List.mem_map.1 hc
              exact hb.of_next hclosed hs
            · exact hrest c hc
          -- The spot that is marked pays for the two branches that are put on the stack.
          have hbound : (p.onward text b ++ rest).length +
              2 * (table.set! (p.number b.spot) true).count false ≤ fuel := by
            have hcount := hb.count_set htable htried
            have hlength : (p.next text b.spot).length ≤ 2 := length_next_le b.spot
            rw [List.length_append, onward, List.length_map]
            omega
          obtain ⟨hexplores, hsize⟩ := ih (hset.trans htable) hways hbound
          rw [hb.marked_set htable] at hexplores
          rw [hadvance]
          exact ⟨.step htried hadvance hexplores, hsize.trans hset⟩

/-! ### The places of the text -/

variable (p text) in
/-- What a search of the whole text gives: what is remembered on the leftmost and most preferred
way, or nothing if there is no way. -/
inductive Answer (slots : Slots) : Option Slots → Prop where
  /-- There is a match. -/
  | found {place : Nat} {way : List Spot} : p.LeftmostFirst text place way →
      Answer slots (some (p.record way slots))
  /-- There is none. -/
  | none : (∀ place ≤ text.size, ∀ way, ¬ p.Way text { node := p.start, place } way) →
      Answer slots none

/-- A way leaves out all spots from which there is no way. -/
theorem Way.untried (h : p.Way text x way) (hnodup : way.Nodup)
    (htried : ∀ s ∈ tried, ∀ way, ¬ p.Way text s way) : p.Untried text tried x way := by
  refine ⟨h, hnodup, ?_⟩
  intro y hy hmem
  obtain ⟨-, back, -, hback⟩ := h.exists_from hy
  exact htried y hmem back hback

/-- A dead spot has no way at all, if what was tried before has none. -/
theorem Dead.not_way (h : p.Dead text tried x)
    (htried : ∀ s ∈ tried, ∀ way, ¬ p.Way text s way) : ∀ way, ¬ p.Way text x way := by
  intro way hway
  obtain ⟨way', hway', hnodup⟩ := hway.exists_nodup
  exact h way' (hway'.untried hnodup htried)

/-- The places are tried from the left. A place is left for the next one when there is no way from
it, and none from any spot that was tried so far. -/
theorem answer_searchFrom (hclosed : Closed p.nodes) (hstart : p.start < p.nodes.size)
    {slots : Slots} {fuel count place : Nat}
    (htable : table.size = p.nodes.size * (text.size + 1)) (hfuel : 2 * table.size + 1 ≤ fuel)
    (hcount : place + count = text.size + 1)
    (htried : ∀ s ∈ p.marked text table, ∀ way, ¬ p.Way text s way)
    (hbefore : ∀ other < place, ∀ way, ¬ p.Way text { node := p.start, place := other } way) :
    p.Answer text slots (p.searchFrom text slots fuel count place table) := by
  induction count generalizing place table with
  | zero =>
    refine .none fun other hother => hbefore other ?_
    omega
  | succ count ih =>
    have hplace : place ≤ text.size := by omega
    have hstack : ∀ b ∈ [({ node := p.start, place, slots } : Branch)], p.InRange text b.spot := by
      intro b hb
      obtain rfl := List.mem_singleton.1 hb
      exact ⟨hstart, hplace⟩
    have hbound : [({ node := p.start, place, slots } : Branch)].length + 2 * table.count false ≤
        fuel := by
      have hfalse : table.count false ≤ table.size := Array.count_le_size
      rw [List.length_singleton]
      omega
    obtain ⟨hexplores, hsize⟩ := explores_explore hclosed htable hstack hbound
    rw [searchFrom]
    generalize p.explore text fuel table [{ node := p.start, place, slots }] = result at *
    obtain ⟨found, table'⟩ := result
    cases hexplores.outcome with
    | @found _ before after b way hsingle _ hway hfirst =>
      -- Only one branch waits, which starts at this place.
      obtain ⟨rfl, rfl⟩ : before = [] ∧ b = { node := p.start, place, slots } := by
        cases before with
        | nil => exact ⟨rfl, (List.cons.inj hsingle).1.symm⟩
        | cons c before => simp at hsingle
      have hmatch : p.MatchesFrom text place way := ⟨hplace, hway.isWay, hway.nodup⟩
      have hleftmost : p.LeftmostFirst text place way := by
        refine ⟨hmatch, ?_, ?_⟩
        · intro other way' hway'
          by_contra hlt
          exact hbefore other (Nat.lt_of_not_le hlt) way' hway'
        · intro way' hway'
          exact hfirst way' (hway'.isWay.untried hway'.nodup htried)
      exact .found hleftmost
    | none hdead htried' =>
      refine ih (hsize.trans htable) (by rw [hsize]; exact hfuel) (by omega) ?_ ?_
      · intro s hs
        rcases htried' s hs with hmem | hs
        · exact htried s hmem
        · exact hs.not_way htried
      · intro other hother
        rcases Nat.lt_succ_iff_lt_or_eq.1 hother with hlt | rfl
        · exact hbefore other hlt
        · exact (hdead _ List.mem_cons_self).not_way htried

/-- The search of a text gives the leftmost and most preferred match. -/
theorem answer_search (hclosed : Closed p.nodes) (hstart : p.start < p.nodes.size)
    (captures : Nat) (text : Array Char) :
    p.Answer text (Array.replicate (2 * captures + 2) none) (p.search captures text) := by
  rw [search]
  refine answer_searchFrom hclosed hstart Array.size_replicate ?_ ?_ ?_ ?_
  · rw [Array.size_replicate]
    omega
  · omega
  · -- No spot is marked yet.
    rintro s ⟨-, hmarked⟩
    rw [Array.getElem?_replicate] at hmarked
    split at hmarked <;> cases hmarked
  · intro other hother
    omega

section

variable (hclosed : Closed p.nodes) (hstart : p.start < p.nodes.size) {captures : Nat}

include hclosed hstart

/-- What a search gives is remembered on the leftmost and most preferred way. -/
theorem search_eq_some_iff {slots : Slots} : p.search captures text = some slots ↔
    ∃ place way, p.LeftmostFirst text place way ∧
      slots = p.record way (Array.replicate (2 * captures + 2) none) := by
  have hanswer := answer_search hclosed hstart captures text
  generalize p.search captures text = found at hanswer
  cases hanswer with
  | found hfirst =>
    constructor
    · rintro ⟨⟩
      exact ⟨_, _, hfirst, rfl⟩
    · rintro ⟨place, way, hfirst', rfl⟩
      rw [hfirst.unique hfirst']
  | none hnone =>
    constructor
    · rintro ⟨⟩
    · rintro ⟨place, way, hfirst, -⟩
      exact absurd hfirst.isMatch.isWay (hnone place hfirst.isMatch.place_le way)

/-- A search gives nothing if there is no way from any place of the text. -/
theorem search_eq_none_iff : p.search captures text = none ↔
    ∀ place ≤ text.size, ∀ way, ¬ p.Way text { node := p.start, place } way := by
  have hanswer := answer_search hclosed hstart captures text
  generalize p.search captures text = found at hanswer
  cases hanswer with
  | @found place way hfirst =>
    constructor
    · rintro ⟨⟩
    · intro hnone
      exact absurd hfirst.isMatch.isWay (hnone place hfirst.isMatch.place_le way)
  | none hnone => exact ⟨fun _ => hnone, fun _ => rfl⟩

end

/-! ### Whether there is a match -/

/-- The branches that go on from a branch are at the next spots. -/
theorem map_spot_onward (b : Branch) : (p.onward text b).map Branch.spot = p.next text b.spot := by
  rw [onward, List.map_map]
  exact List.map_id _

variable (p text) in
/-- What branches remember decides nothing: the same spots are tried, and a match is found or not
found. -/
theorem explore_congr (fuel : Nat) (table : Array Bool) {stack stack' : List Branch}
    (h : stack.map Branch.spot = stack'.map Branch.spot) :
    (p.explore text fuel table stack).1.isSome = (p.explore text fuel table stack').1.isSome ∧
      (p.explore text fuel table stack).2 = (p.explore text fuel table stack').2 := by
  induction fuel generalizing table stack stack' with
  | zero => exact ⟨rfl, rfl⟩
  | succ fuel ih =>
    cases stack with
    | nil =>
      obtain rfl := List.map_eq_nil_iff.1 h.symm
      exact ⟨rfl, rfl⟩
    | cons b rest =>
      obtain ⟨b', rest', rfl, hspot, hrest⟩ := List.map_eq_cons_iff.1 h.symm
      have hnumber : b'.place * p.nodes.size + b'.node = b.place * p.nodes.size + b.node :=
        congrArg p.number hspot
      have hnode : b'.node = b.node := congrArg Spot.node hspot
      rw [explore, explore, hnumber]
      by_cases htried : table.getD (b.place * p.nodes.size + b.node) true = true
      · rw [if_pos htried, if_pos htried]
        exact ih table hrest.symm
      · rw [if_neg htried, if_neg htried]
        by_cases haccept : p.nodes[b.node]? = some .accept
        · rw [advance_of_accept text haccept, advance_of_accept text (hnode ▸ haccept)]
          exact ⟨rfl, rfl⟩
        · rw [advance_of_ne_accept text haccept, advance_of_ne_accept text (hnode ▸ haccept)]
          refine ih _ ?_
          rw [List.map_append, List.map_append, map_spot_onward, map_spot_onward, hspot, hrest]

/-- Whether a match is found from a place on does not depend on what is remembered. -/
theorem isSome_searchFrom {slots slots' : Slots} {fuel count place : Nat} :
    (p.searchFrom text slots fuel count place table).isSome =
      (p.searchFrom text slots' fuel count place table).isSome := by
  induction count generalizing place table with
  | zero => rfl
  | succ count ih =>
    have hspots : [({ node := p.start, place, slots } : Branch)].map Branch.spot =
        [({ node := p.start, place, slots := slots' } : Branch)].map Branch.spot := rfl
    obtain ⟨hfound, htable⟩ := explore_congr p text fuel table hspots
    rw [searchFrom, searchFrom]
    generalize p.explore text fuel table [{ node := p.start, place, slots }] = result at *
    generalize p.explore text fuel table [{ node := p.start, place, slots := slots' }] = result'
      at *
    obtain ⟨found, table'⟩ := result
    obtain ⟨found', table''⟩ := result'
    obtain rfl : table' = table'' := htable
    cases found with
    | none =>
      obtain rfl := Option.isNone_iff_eq_none.1 (by simpa using hfound.symm)
      exact ih
    | some found =>
      obtain ⟨found', rfl⟩ := Option.isSome_iff_exists.1 hfound.symm
      rfl

/-- Whether there is a match does not depend on how many groups are remembered. -/
theorem isSome_search (captures captures' : Nat) :
    (p.search captures text).isSome = (p.search captures' text).isSome :=
  isSome_searchFrom

end Program

end BringUp.Pattern
