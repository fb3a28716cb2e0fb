import BringUp.Pattern
import Mathlib.Data.List.Induction

/-!
# Ways through a program

A pattern matches along a way: from the start of its program at some place of the text, from node to
node as the text allows, to the node that accepts. Where a node goes on at two others the first is
preferred, and so is a way over another one that parts from it there. A way remembers places as it
passes the ends of groups, and the last place counts if it passes an end again.

Ways that come back to where they were have no first one among them, since a loop could always be
run once more. So only the ways that are nowhere twice are compared; there is one whenever there is
a way at all.

* `Program.Way`, `Program.Preferred`: the ways through a program and their order.
* `Program.LeftmostFirst`: the match that counts.
* `Program.Way.exists_nodup`: where there is a way there is one that is nowhere twice.
* `Program.LeftmostFirst.unique`: there is only one leftmost and most preferred match.
* `Program.groupText?_record`: the text of a group is the one that the way has matched by it.
-/

namespace BringUp.Pattern

/-- A node of a program at a place of a text. -/
structure Spot where
  /-- The node. -/
  node : Nat
  /-- The place. -/
  place : Nat

namespace Program

variable (p : Program) (text : Array Char)

/-- The spots where a way may go on from a spot, the preferred one first. -/
def next (s : Spot) : List Spot :=
  match p.nodes[s.node]? with
  | some (.take set next) =>
    match text[s.place]? with
    | some c => if set.contains c then [{ node := next, place := s.place + 1 }] else []
    | none => []
  | some (.look a next) =>
    let before := if s.place = 0 then none else text[s.place - 1]?
    if a.holds before text[s.place]? then [{ s with node := next }] else []
  | some (.save _ next) => [{ s with node := next }]
  | some (.split first second) => [{ s with node := first }, { s with node := second }]
  | some .accept | none => []

/-- The ways from a spot to where the pattern is matched. -/
inductive Way : Spot → List Spot → Prop where
  /-- The pattern is matched. -/
  | accept {s : Spot} : p.nodes[s.node]? = some .accept → Way s [s]
  /-- The way goes on. -/
  | step {s t : Spot} {way : List Spot} : t ∈ p.next text s → Way t way → Way s (s :: way)

/-- The order of the ways from a spot: where two of them part, the one that goes on at the first
node is preferred. -/
inductive Preferred : List Spot → List Spot → Prop where
  /-- They part here. -/
  | here {s t t' : Spot} {way way' : List Spot} : p.next text s = [t, t'] → t ≠ t' →
      Preferred (s :: t :: way) (s :: t' :: way')
  /-- They part later. -/
  | later {s : Spot} {way way' : List Spot} : Preferred way way' → Preferred (s :: way) (s :: way')

/-- A way along which the pattern matches from a place on, and which is nowhere twice. -/
structure MatchesFrom (place : Nat) (way : List Spot) : Prop where
  /-- The place is in the text or at its end. -/
  place_le : place ≤ text.size
  /-- The way starts where the program does. -/
  isWay : p.Way text { node := p.start, place } way
  /-- It is nowhere twice. -/
  nodup : way.Nodup

/-- The way along which a pattern matches: it starts at the leftmost place from which there is a way
at all, and it is preferred over all others from there. -/
structure LeftmostFirst (place : Nat) (way : List Spot) : Prop where
  /-- The pattern matches along the way. -/
  isMatch : p.MatchesFrom text place way
  /-- No way starts at an earlier place. -/
  leftmost : ∀ {other way'}, p.Way text { node := p.start, place := other } way' → place ≤ other
  /-- The way is preferred over every other one from the place. -/
  first : ∀ {way'}, p.MatchesFrom text place way' → way' = way ∨ p.Preferred text way way'

/-- What is remembered at a spot: its place, if it is at an end of a group. -/
def save (s : Spot) (slots : Slots) : Slots :=
  match p.nodes[s.node]? with
  | some (.save slot _) => slots.setIfInBounds slot (some s.place)
  | _ => slots

/-- What is remembered on a way. -/
def record (way : List Spot) (slots : Slots) : Slots :=
  way.foldl (fun slots s => p.save s slots) slots

/-- Whether a spot is at the end of a group that a slot is for. -/
def isEnd (slot : Nat) (s : Spot) : Bool :=
  match p.nodes[s.node]? with
  | some (.save other _) => other == slot
  | _ => false

/-- The place where a way last passes the end of a group. -/
def lastEnd? (slot : Nat) (way : List Spot) : Option Nat :=
  (way.reverse.find? (p.isEnd slot)).map Spot.place

/-- The part of the text that a way matches by a group, if it passes both ends of the group. -/
def group? (way : List Spot) (index : Nat) : Option String := do
  let first ← p.lastEnd? (2 * index) way
  let last ← p.lastEnd? (2 * index + 1) way
  return String.ofList (text.extract first last).toList

variable {p text} {s x : Spot} {way way' : List Spot}

/-! ### The order of ways -/

/-- A way starts with its first spot. -/
theorem Way.exists_cons (h : p.Way text s way) : ∃ more, way = s :: more := by
  cases h with
  | accept => exact ⟨[], rfl⟩
  | step => exact ⟨_, rfl⟩

/-- What is left of a way at a spot on it is a way from there. -/
theorem Way.exists_from (h : p.Way text s way) (hx : x ∈ way) :
    ∃ front back, way = front ++ back ∧ p.Way text x back := by
  induction h with
  | accept haccept =>
    obtain rfl := List.mem_singleton.1 hx
    exact ⟨[], [x], rfl, .accept haccept⟩
  | step hnext hway ih =>
    rcases List.mem_cons.1 hx with rfl | hx
    · exact ⟨[], _, rfl, .step hnext hway⟩
    · obtain ⟨front, back, rfl, hback⟩ := ih hx
      exact ⟨_ :: front, back, rfl, hback⟩

/-- Where there is a way there is one that is nowhere twice: what lies between two visits of a spot
is left out. -/
theorem Way.exists_nodup (h : p.Way text s way) : ∃ way', p.Way text s way' ∧ way'.Nodup := by
  induction h with
  | accept haccept => exact ⟨_, .accept haccept, by simp⟩
  | @step s t _ hnext _ ih =>
    obtain ⟨way', hway', hnodup⟩ := ih
    by_cases hs : s ∈ way'
    · obtain ⟨front, back, rfl, hback⟩ := hway'.exists_from hs
      exact ⟨back, hback, (List.nodup_append.1 hnodup).2.1⟩
    · exact ⟨s :: way', .step hnext hway', List.nodup_cons.2 ⟨hs, hnodup⟩⟩

/-- Only ways from the same spot are compared. -/
theorem Preferred.head?_eq (h : p.Preferred text way way') : way.head? = way'.head? := by
  cases h with
  | here => rfl
  | later => rfl

/-- Of two ways only one is preferred. -/
theorem Preferred.asymm (h : p.Preferred text way way') : ¬ p.Preferred text way' way := by
  induction h with
  | here hnext hne =>
    intro h
    cases h with
    | here hnext' =>
      rw [hnext] at hnext'
      injection hnext' with heq
      exact hne heq
    | later h => exact hne (Option.some.inj h.head?_eq).symm
  | later h' ih =>
    intro h
    cases h with
    | here _ hne => exact hne (Option.some.inj h'.head?_eq).symm
    | later h => exact ih h

/-- There is one way along which a pattern matches. -/
theorem LeftmostFirst.unique {place place' : Nat} (h : p.LeftmostFirst text place way)
    (h' : p.LeftmostFirst text place' way') : way = way' := by
  have hplace : place = place' :=
    Nat.le_antisymm (h.leftmost h'.isMatch.isWay) (h'.leftmost h.isMatch.isWay)
  subst hplace
  rcases h.first h'.isMatch with heq | hbefore
  · exact heq.symm
  · rcases h'.first h.isMatch with heq | hafter
    · exact heq
    · exact absurd hafter hbefore.asymm

/-! ### What a way remembers -/

@[simp]
theorem size_save (s : Spot) (slots : Slots) : (p.save s slots).size = slots.size := by
  unfold save
  split
  · exact Array.size_setIfInBounds
  · rfl

@[simp]
theorem size_record (way : List Spot) (slots : Slots) :
    (p.record way slots).size = slots.size := by
  induction way generalizing slots with
  | nil => rfl
  | cons s way ih => exact (ih _).trans (size_save s slots)

/-- At the end of a group the place is remembered in the slot for that end, and nothing else. -/
theorem getElem?_save {slots : Slots} {slot : Nat} (h : slot < slots.size) :
    (p.save s slots)[slot]? = if p.isEnd slot s then some (some s.place) else slots[slot]? := by
  unfold save isEnd
  split
  · next other _ _ =>
    rw [Array.getElem?_setIfInBounds]
    by_cases heq : other = slot
    · simp [heq, h]
    · simp [heq]
  · rfl

/-- A slot holds the place where the way has last passed the end of the group. -/
theorem join_getElem?_record {slot size : Nat} (h : slot < size) (way : List Spot) :
    (p.record way (Array.replicate size none))[slot]?.join = p.lastEnd? slot way := by
  -- The last spot of a way decides, so the induction takes ways apart at their end.
  induction way using List.reverseRecOn with
  | nil => simp [record, lastEnd?, h]
  | append_singleton way s ih =>
    have hrecord : p.record (way ++ [s]) (Array.replicate size none) =
        p.save s (p.record way (Array.replicate size none)) := by
      simp [record]
    rw [hrecord, getElem?_save (by simpa using h), lastEnd?, List.reverse_append]
    by_cases hend : p.isEnd slot s = true
    · simp [hend]
    · simpa [hend, lastEnd?] using ih

/-- The text of a group is the one that the way has matched by it. -/
theorem groupText?_record {captures index : Nat} (h : index ≤ captures) (way : List Spot) :
    groupText? text (p.record way (Array.replicate (2 * captures + 2) none)) index =
      p.group? text way index := by
  rw [groupText?, join_getElem?_record (by omega), join_getElem?_record (by omega), group?]

end Program

end BringUp.Pattern
