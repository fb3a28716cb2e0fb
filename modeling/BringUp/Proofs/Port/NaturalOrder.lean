import BringUp.Proofs.Port.Ranking
import Mathlib.Data.List.Nodup

/-!
# The natural order of ports

Ports whose names differ in their stems or in the values of the digits at their ends have an order
of their own, in which a smaller value comes before a greater one. They are ranked in this order,
however they are listed, as long as no value that needs more than 64 bits is to be told from another
one.

* `sortPorts_eq_of_perm`: ports with different keys are sorted in one way only.
* `sublist_sortPorts`: a smaller key comes first.
* `ranked_naturally_iff`: which ports are ranked in their natural order.
* `great_number_first`: a value that is too great comes before a smaller one.
-/

namespace BringUp

namespace SerialPort

/-- What tells a port from others: the stem, and the value of the digits at the end. -/
def naturalKey (p : SerialPort) : String × Nat := (p.stem, p.value)

/-- A name has one stem and one value. -/
theorem naturalKey_of_name_eq {p q : SerialPort} (h : p.name = q.name) :
    p.naturalKey = q.naturalKey := by
  simp only [naturalKey, stem, value, digits, h]

end SerialPort

variable {ports other : List SerialPort} {p q : SerialPort}

/-- Ports with different keys are sorted in one way only. -/
theorem sortPorts_eq_of_perm (hkeys : (ports.map SerialPort.key).Nodup) (h : other.Perm ports) :
    sortPorts other = sortPorts ports := by
  have hperm : (sortPorts other).Perm (sortPorts ports) :=
    (perm_sortPorts other).trans (h.trans (perm_sortPorts ports).symm)
  refine List.Perm.eq_of_pairwise (fun p q hp hq hpq hqp => ?_) (pairwise_sortPorts other)
    (pairwise_sortPorts ports) hperm
  have hp' : p ∈ ports := h.mem_iff.1 ((perm_sortPorts other).mem_iff.1 hp)
  have hq' : q ∈ ports := (perm_sortPorts ports).mem_iff.1 hq
  exact List.inj_on_of_nodup_map hkeys hp' hq' (le_antisymm hpq hqp)

/-- A port with a smaller key comes first. -/
theorem sublist_sortPorts (hp : p ∈ ports) (hq : q ∈ ports) (hlt : p.key < q.key) :
    [p, q].Sublist (sortPorts ports) := by
  have hsorted := pairwise_sortPorts ports
  obtain ⟨front, back, hsplit⟩ := List.append_of_mem ((perm_sortPorts ports).mem_iff.2 hp)
  have hmem : q ∈ front ++ p :: back := hsplit ▸ (perm_sortPorts ports).mem_iff.2 hq
  rw [hsplit] at hsorted ⊢
  have hback : q ∈ back := by
    rcases List.mem_append.1 hmem with hfront | hrest
    · have hle := (List.pairwise_append.1 hsorted).2.2 q hfront p List.mem_cons_self
      exact absurd hlt (not_lt_of_ge hle)
    · exact (List.mem_cons.1 hrest).resolve_left fun heq => absurd hlt (heq ▸ lt_irrefl _)
  exact ((List.singleton_sublist.2 hback).cons_cons p).trans (List.sublist_append_right _ _)

/-- Of two elements of a list without repetitions, one comes first. -/
theorem idxOf_lt_of_sublist {α : Type} [DecidableEq α] {a b : α} {l : List α} (hl : l.Nodup)
    (h : [a, b].Sublist l) : l.idxOf a < l.idxOf b := by
  have hordered : l.Pairwise fun a b => l.idxOf a < l.idxOf b := by
    rw [List.pairwise_iff_getElem]
    intro i j hi hj hlt
    rwa [hl.idxOf_getElem, hl.idxOf_getElem]
  have hpair : [a, b].Pairwise fun a b => l.idxOf a < l.idxOf b := hordered.sublist h
  exact List.rel_of_pairwise_cons hpair (List.mem_singleton_self b)

/-- Ports that differ in their stems or values have different names. -/
theorem nodup_names (hdistinct : (ports.map SerialPort.naturalKey).Nodup) :
    ((rankPorts ports).map Port.name).Nodup := by
  rw [map_name_rankPorts, ((perm_sortPorts ports).map SerialPort.name).nodup_iff]
  refine List.Nodup.map_on (fun p hp q hq h => ?_) (List.Nodup.of_map _ hdistinct)
  exact List.inj_on_of_nodup_map hdistinct hp hq (SerialPort.naturalKey_of_name_eq h)

/-- No port with a value of more than 64 bits has the stem of a port with a smaller value. -/
def ToldApart (ports : List SerialPort) : Prop :=
  ∀ p ∈ ports, ∀ q ∈ ports, p.stem = q.stem → p.value < q.value → q.value ≤ Text.maxWord64

namespace ToldApart

/-- A smaller value makes a smaller key. -/
theorem key_lt (h : ToldApart ports) (hp : p ∈ ports) (hq : q ∈ ports) (hstem : p.stem = q.stem)
    (hlt : p.value < q.value) : p.key < q.key := by
  have hle := h p hp q hq hstem hlt
  rw [SerialPort.key, SerialPort.key, Prod.Lex.toLex_lt_toLex, SerialPort.number_of_le hle,
    SerialPort.number_of_le (hlt.le.trans hle)]
  exact .inr ⟨hstem, hlt⟩

/-- Ports that differ in their stems or values have different keys. -/
theorem nodup_keys (h : ToldApart ports) (hdistinct : (ports.map SerialPort.naturalKey).Nodup) :
    (ports.map SerialPort.key).Nodup := by
  refine List.Nodup.map_on (fun p hp q hq heq => ?_) (List.Nodup.of_map _ hdistinct)
  have hstem := (SerialPort.key_eq_iff.1 heq).1
  rcases lt_trichotomy p.value q.value with hlt | hvalue | hgt
  · exact absurd heq (h.key_lt hp hq hstem hlt).ne
  · exact List.inj_on_of_nodup_map hdistinct hp hq (Prod.ext hstem hvalue)
  · exact absurd heq (h.key_lt hq hp hstem.symm hgt).ne'

end ToldApart

/-- The ports are ranked in one way, however they are listed, and of two ports with one stem that
with the smaller value comes first. -/
structure RankedNaturally (ports : List SerialPort) : Prop where
  /-- Another order of the list makes no difference. -/
  same : ∀ other, other.Perm ports → rankPorts other = rankPorts ports
  /-- A smaller value comes first. -/
  ordered : ∀ p ∈ ports, ∀ q ∈ ports, p.stem = q.stem → p.value < q.value →
    [p.name, q.name].Sublist ((rankPorts ports).map Port.name)

/-- Ports that are told apart are ranked in their natural order. -/
theorem rankedNaturally_of_toldApart (hdistinct : (ports.map SerialPort.naturalKey).Nodup)
    (h : ToldApart ports) : RankedNaturally ports where
  same other hperm := by
    rw [rankPorts, rankPorts, sortPorts_eq_of_perm (h.nodup_keys hdistinct) hperm]
  ordered p hp q hq hstem hlt := by
    rw [map_name_rankPorts]
    exact (sublist_sortPorts hp hq (h.key_lt hp hq hstem hlt)).map SerialPort.name

/-- If a value is too great, the port comes before one with the same stem and a smaller value, or
the order in which they are listed decides. -/
theorem toldApart_of_rankedNaturally (hdistinct : (ports.map SerialPort.naturalKey).Nodup)
    (h : RankedNaturally ports) : ToldApart ports := by
  intro p hp q hq hstem hlt
  by_contra hgreat
  have hnumber : q.number = 0 := SerialPort.number_of_lt (Nat.not_le.1 hgreat)
  have hprecedes : q.precedes p = true := by
    rw [SerialPort.precedes_iff, SerialPort.key, SerialPort.key, Prod.Lex.toLex_le_toLex, hnumber]
    exact .inr ⟨hstem.symm, Nat.zero_le _⟩
  -- Listed in front of the other port, the one with the greater value comes first.
  have hne : p ≠ q := fun heq => absurd hlt (heq ▸ lt_irrefl _)
  have hperm : (q :: p :: (ports.erase q).erase p).Perm ports :=
    ((List.perm_cons_erase hq).trans
      ((List.perm_cons_erase ((List.mem_erase_of_ne hne).2 hp)).cons q)).symm
  have hfirst : [q, p].Sublist (sortPorts (q :: p :: (ports.erase q).erase p)) :=
    List.pair_sublist_mergeSort SerialPort.precedes_trans SerialPort.precedes_total hprecedes
      (List.sublist_append_left [q, p] _)
  have hnames := hfirst.map SerialPort.name
  rw [← map_name_rankPorts, h.same _ hperm] at hnames
  have hnodup := nodup_names hdistinct
  exact lt_asymm (idxOf_lt_of_sublist hnodup hnames)
    (idxOf_lt_of_sublist hnodup (h.ordered p hp q hq hstem hlt))

/-- Ports that differ in their stems or in the values of the digits at their ends are ranked in
their natural order, however they are listed, exactly if no value of more than 64 bits is to be told
from a smaller one behind the same stem. -/
theorem ranked_naturally_iff (hdistinct : (ports.map SerialPort.naturalKey).Nodup) :
    RankedNaturally ports ↔ ToldApart ports :=
  ⟨toldApart_of_rankedNaturally hdistinct, rankedNaturally_of_toldApart hdistinct⟩

/-- Two cables behind one stem. -/
theorem ninth_before_tenth :
    let cable (name : String) : SerialPort := { name, kind := .usb 0x0403 0x6001 }
    let ports := [cable "COM10", cable "COM9", { name := "COM" }]
    (ports.map SerialPort.naturalKey).Nodup ∧ RankedNaturally ports := by
  intro cable ports
  have hdistinct : (ports.map SerialPort.naturalKey).Nodup := by decide
  have htold : ToldApart ports := by
    unfold ToldApart
    decide
  exact ⟨hdistinct, (ranked_naturally_iff hdistinct).2 htold⟩

/-- The port with the greater value comes first if it needs more than 64 bits. -/
theorem great_number_first :
    ¬ ∀ ports : List SerialPort,
      (ports.map SerialPort.naturalKey).Nodup → RankedNaturally ports := by
  intro h
  have hdistinct : (([{ name := "COM18446744073709551616" }, { name := "COM1" }] :
      List SerialPort).map SerialPort.naturalKey).Nodup := by decide
  have htold := toldApart_of_rankedNaturally hdistinct (h _ hdistinct)
  unfold ToldApart at htold
  revert htold
  decide

end BringUp
