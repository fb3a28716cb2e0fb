import BringUp.Port.Serial
import BringUp.Proofs.Port.Key

/-!
# How ports are ranked

The ports are sorted by their keys, those of one key in the order in which they are listed. One of
them is preferred: the last debug cable, or the last port if there is no cable.

* `filter_sortPorts`: sorting keeps the ports of one key in their order.
* `behindPreferred_eq`: how many ports stand behind the preferred one.
* `rankPorts_eq`: the ports around the preferred one.
* `discover_ranks`: what a serial host gives for any list of ports.
-/

namespace BringUp

open SerialPort (precedes_iff)

/-! ### The order -/

/-- No key is greater than a greater one. -/
theorem SerialPort.precedes_trans (p q r : SerialPort) (hpq : p.precedes q = true)
    (hqr : q.precedes r = true) : p.precedes r = true :=
  precedes_iff.2 (le_trans (precedes_iff.1 hpq) (precedes_iff.1 hqr))

/-- One of two ports may stand before the other one. -/
theorem SerialPort.precedes_total (p q : SerialPort) : (p.precedes q || q.precedes p) = true := by
  rw [Bool.or_eq_true, precedes_iff, precedes_iff]
  exact le_total p.key q.key

/-- Sorted ports are in the order of their keys. -/
theorem pairwise_sortPorts (ports : List SerialPort) :
    (sortPorts ports).Pairwise fun p q => p.key ≤ q.key :=
  (List.pairwise_mergeSort SerialPort.precedes_trans SerialPort.precedes_total ports).imp
    precedes_iff.1

/-- Sorting keeps the ports of one key in the order in which they are listed. -/
theorem filter_sortPorts (ports : List SerialPort) (key : String ×ₗ Nat) :
    (sortPorts ports).filter (·.key = key) = ports.filter (·.key = key) := by
  have hsame : (ports.filter (·.key = key)).Pairwise fun p q => p.precedes q = true := by
    refine List.pairwise_of_forall_mem_list fun p hp q hq => precedes_iff.2 ?_
    have hpkey : p.key = key := by simpa using (List.mem_filter.1 hp).2
    have hqkey : q.key = key := by simpa using (List.mem_filter.1 hq).2
    rw [hpkey, hqkey]
  -- Ports of one key are in order as they are listed, so that sorting leaves them as they are.
  have hsub : (ports.filter (·.key = key)).Sublist (sortPorts ports) :=
    List.sublist_mergeSort SerialPort.precedes_trans SerialPort.precedes_total hsame
      List.filter_sublist
  have hfilter := hsub.filter (·.key = key)
  rw [List.filter_filter] at hfilter
  simp only [Bool.and_self] at hfilter
  exact (hfilter.eq_of_length ((perm_sortPorts ports).filter _).length_eq.symm).symm

/-! ### The preferred port -/

/-- Behind the preferred port there is no debug cable, and it is one itself or the last port of a
list without one. -/
structure IsPreferred (chosen : SerialPort) (ports front back : List SerialPort) : Prop where
  /-- Where it stands. -/
  split : ports = front ++ chosen :: back
  /-- No debug cable stands behind it. -/
  behind : ∀ p ∈ back, p.kind ≠ .usb 0x0403 0x6001
  /-- It is a debug cable, or there is none and it is the last port. -/
  chosen : chosen.kind = .usb 0x0403 0x6001 ∨
    back = [] ∧ ∀ p ∈ ports, p.kind ≠ .usb 0x0403 0x6001

/-- Without a debug cable none is found. -/
theorem findIdx?_isDebugCable_eq_none {ports : List SerialPort}
    (h : ∀ p ∈ ports, p.kind ≠ .usb 0x0403 0x6001) :
    ports.reverse.findIdx? SerialPort.isDebugCable = none := by
  refine List.findIdx?_eq_none_iff.2 fun p hp => Bool.eq_false_iff.2 fun hcable => ?_
  exact h p (List.mem_reverse.1 hp) (SerialPort.isDebugCable_iff.1 hcable)

/-- The ports behind the preferred one are counted. -/
theorem behindPreferred_eq {chosen : SerialPort} {ports front back : List SerialPort}
    (h : IsPreferred chosen ports front back) : behindPreferred ports = back.length := by
  have hbehind := findIdx?_isDebugCable_eq_none h.behind
  rcases h.chosen with hcable | ⟨hlast, hnone⟩
  · have hchosen : chosen.isDebugCable = true := SerialPort.isDebugCable_iff.2 hcable
    rw [behindPreferred, h.split, List.reverse_append, List.reverse_cons, List.append_assoc]
    simp [List.findIdx?_append, hbehind, List.findIdx?_cons, hchosen]
  · rw [behindPreferred, findIdx?_isDebugCable_eq_none hnone, hlast]
    rfl

/-- Some port of a list is preferred. -/
theorem exists_isPreferred {ports : List SerialPort} (hports : ports ≠ []) :
    ∃ chosen front back, IsPreferred chosen ports front back := by
  -- The last debug cable is the first one from behind.
  cases hfind : ports.reverse.find? SerialPort.isDebugCable with
  | some chosen =>
    obtain ⟨hcable, behind, before, hsplit, hbehind⟩ := List.find?_eq_some_iff_append.1 hfind
    refine ⟨chosen, before.reverse, behind.reverse, ?_, fun p hp hkind => ?_,
      .inl (SerialPort.isDebugCable_iff.1 hcable)⟩
    · rw [← List.reverse_reverse ports, hsplit]
      simp
    · have hnot := hbehind p (List.mem_reverse.1 hp)
      rw [SerialPort.isDebugCable_iff.2 hkind] at hnot
      cases hnot
  | none =>
    have hnone : ∀ p ∈ ports, p.kind ≠ .usb 0x0403 0x6001 := fun p hp hkind =>
      List.find?_eq_none.1 hfind p (List.mem_reverse.2 hp) (SerialPort.isDebugCable_iff.2 hkind)
    obtain ⟨front, chosen, rfl⟩ := (List.eq_nil_or_concat ports).resolve_left hports
    exact ⟨chosen, front, [], by simp, by simp, .inr ⟨rfl, hnone⟩⟩

/-- A port that is not preferred, as the operator can pick it. -/
def SerialPort.plain (p : SerialPort) : Port := { name := p.name }

/-- A map that does not depend on the places of the elements. -/
theorem mapIdx_eq_map {α β : Type} {f : Nat → α → β} {g : α → β} {l : List α}
    (h : ∀ i < l.length, ∀ a, f i a = g a) : l.mapIdx f = l.map g := by
  apply List.ext_getElem
  · simp
  · intro i hi _
    rw [List.getElem_mapIdx, List.getElem_map]
    exact h i (by simpa using hi) _

/-- The ports in their order, with the preferred one among them. -/
theorem rankPorts_eq {chosen : SerialPort} {ports front back : List SerialPort}
    (h : IsPreferred chosen (sortPorts ports) front back) :
    rankPorts ports = front.map SerialPort.plain ++
      { name := chosen.name, preferred := true } :: back.map SerialPort.plain := by
  have hlength : (front ++ chosen :: back).length = front.length + back.length + 1 := by
    rw [List.length_append, List.length_cons, Nat.add_assoc]
  -- The places in front of the chosen port are too small to be its place, those behind too great.
  have hfront : ∀ i < front.length,
      (i + back.length + 1 == front.length + back.length + 1) = false := fun i hi =>
    beq_false_of_ne (by omega)
  have hback : ∀ i, (i + 1 + front.length + back.length + 1 == front.length + back.length + 1) =
      false := fun i => beq_false_of_ne (by omega)
  rw [rankPorts, behindPreferred_eq h, h.split]
  simp only [hlength, List.mapIdx_append, List.mapIdx_cons, Nat.zero_add, beq_self_eq_true]
  congr 1
  · exact mapIdx_eq_map fun i hi p => by rw [hfront i hi]; rfl
  · congr 1
    exact mapIdx_eq_map fun i _ p => by rw [hback i]; rfl

/-- The operator sees the names of the sorted ports. -/
theorem map_name_rankPorts (ports : List SerialPort) :
    (rankPorts ports).map Port.name = (sortPorts ports).map SerialPort.name := by
  rw [rankPorts]
  apply List.ext_getElem
  · simp
  · simp

/-! ### What a serial host gives -/

/-- Ports that are ranked, and what the operator sees of them. -/
structure IsRanking (ports sorted : List SerialPort) (ranked : List Port) : Prop where
  /-- No port is added or lost. -/
  perm : sorted.Perm ports
  /-- The ports are in the order of their stems and numbers. -/
  ordered : sorted.Pairwise fun p q => p.stem < q.stem ∨ p.stem = q.stem ∧ p.number ≤ q.number
  /-- Ports of one stem and number are in the order in which they are listed. -/
  stable : ∀ stem number, sorted.filter (fun p => p.stem = stem ∧ p.number = number) =
    ports.filter fun p => p.stem = stem ∧ p.number = number
  /-- The operator sees the names. -/
  names : ranked.map Port.name = sorted.map SerialPort.name
  /-- One port is preferred, if there is any: the last debug cable, or the last port. -/
  preferred : ports ≠ [] → ∃ chosen front back, IsPreferred chosen sorted front back ∧
    ranked = front.map SerialPort.plain ++
      { name := chosen.name, preferred := true } :: back.map SerialPort.plain

/-- Ports are ranked. -/
theorem isRanking_rankPorts (ports : List SerialPort) :
    IsRanking ports (sortPorts ports) (rankPorts ports) where
  perm := perm_sortPorts ports
  ordered := (pairwise_sortPorts ports).imp fun h => Prod.Lex.toLex_le_toLex.1 h
  stable stem number := by
    have hfilter := filter_sortPorts ports (toLex (stem, number))
    simpa only [SerialPort.key, EmbeddingLike.apply_eq_iff_eq, Prod.mk.injEq] using hfilter
  names := map_name_rankPorts ports
  preferred hports := by
    have hsorted : sortPorts ports ≠ [] := fun hnil =>
      hports (List.nil_perm.1 (hnil ▸ perm_sortPorts ports))
    obtain ⟨chosen, front, back, hchosen⟩ := exists_isPreferred hsorted
    exact ⟨chosen, front, back, hchosen, rankPorts_eq hchosen⟩

/-- One port is preferred if there is any. -/
theorem countP_preferred_rankPorts (ports : List SerialPort) :
    (rankPorts ports).countP Port.preferred = if ports = [] then 0 else 1 := by
  have hplain (others : List SerialPort) :
      (others.map SerialPort.plain).countP Port.preferred = 0 := by
    simp [List.countP_map, List.countP_eq_zero, SerialPort.plain]
  split
  · next hnil =>
    rw [hnil, rankPorts, sortPorts, List.mergeSort_nil]
    rfl
  · next hports =>
    obtain ⟨chosen, front, back, -, hranked⟩ := (isRanking_rankPorts ports).preferred hports
    rw [hranked, List.countP_append, List.countP_cons_of_pos rfl, hplain, hplain]

/-- Whatever ports there are, a serial host gives their names, sorted by what stands before the
digits at their ends and then by the number that the digits are read as, which is zero if there are
none or if it needs more than 64 bits. Ports that this does not tell apart stay in their order. One
port is preferred, if there is any: the last debug cable, or the last port if there is no cable. -/
theorem discover_ranks (h : SerialHost) (ports : List SerialPort) :
    ∃ sorted ranked, ({ h with ports := .ok ports } : SerialHost).discover = .ok ranked ∧
      IsRanking ports sorted ranked ∧
      (∀ p ∈ ports, EndsInDigits p.name.toList p.stem.toList p.digits ∧
        p.number = if p.value ≤ Text.maxWord64 then p.value else 0) ∧
      ranked.countP Port.preferred = if ports = [] then 0 else 1 :=
  ⟨sortPorts ports, rankPorts ports, rfl, isRanking_rankPorts ports,
    fun p _ => ⟨p.endsInDigits, p.number_eq⟩, countP_preferred_rankPorts ports⟩

end BringUp
