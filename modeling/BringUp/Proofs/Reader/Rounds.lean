import BringUp.Reader
import Mathlib.Algebra.Order.Group.Nat
import Mathlib.Data.Nat.Find
import Mathlib.Logic.Function.Iterate
import Mathlib.Tactic.SplitIfs

/-!
# The rounds of a reader

A reader goes round: it asks its source for as many octets as its buffer holds, and forwards those
that it was given. The buffer is used again, so that behind the octets of a read those of earlier
reads are still there. A round in which nothing is read, or which fails for good, is the last one.

* `readOnce`, `outcome`: what a single read gives, and what the source gives after it.
* `Loop`, `Loop.turn`: a reader between two rounds, and one round.
* `arrivals_eq_of_isLast`: what arrives from a source, told by the outcomes of the reads.
* `Loop.iterate_turn`: the rounds forward what arrives from the source, and then nothing more.
* `octets_arrivals`: the octets that arrive are those that are read.
-/

namespace BringUp.Reader

open Reply (Arrival)

/-! ### Single reads -/

/-- What a single read gives. -/
inductive Outcome where
  /-- These octets; there are none at the end of the source. -/
  | got (octets : List UInt8)
  /-- A failure. -/
  | failed (why : ReadFailure)
  deriving Repr, DecidableEq

/-- Reads once, with room for a block. Gives the outcome and what the source gives after it. When
everything has been read, the source is at its end. -/
def readOnce : List Read → Outcome × List Read
  | [] => (.got [], [])
  | .ended :: rest => (.got [], rest)
  | .failed why :: rest => (.failed why, rest)
  | .data bytes :: rest =>
    (.got (bytes.take blockSize),
      if bytes.drop blockSize = [] then rest else .data (bytes.drop blockSize) :: rest)

/-- The outcome of a read behind `n` other ones. -/
def outcome : Nat → List Read → Outcome
  | 0, source => (readOnce source).1
  | n + 1, source => outcome n (readOnce source).2

namespace Outcome

/-- Whether the source is read again after the outcome. -/
def goesOn : Outcome → Bool
  | .got octets => !octets.isEmpty
  | .failed why => why.isPassing

/-- What is forwarded of an outcome after which the source is read again. -/
def events : Outcome → List Arrival
  | .got octets => [.data octets]
  | .failed _ => []

end Outcome

/-- The octets of an arrival. -/
def octetsOf : Arrival → List UInt8
  | .data bytes => bytes
  | .closed => []

/-! ### What arrives, read by read -/

/-- How often a source can be read before it is at its end. -/
def size : List Read → Nat
  | [] => 0
  | .data bytes :: rest => bytes.length + 1 + size rest
  | .ended :: rest | .failed _ :: rest => size rest + 1

/-- A read that is not the last one leaves less to be read. -/
theorem size_readOnce_lt {source : List Read} (h : (readOnce source).1.goesOn = true) :
    size (readOnce source).2 < size source := by
  cases source with
  | nil => simp [readOnce, Outcome.goesOn] at h
  | cons read rest =>
    cases read with
    | ended | failed _ => simp [readOnce, size]
    | data bytes =>
      simp only [readOnce, size]
      split_ifs
      · omega
      · simp only [size, List.length_drop, blockSize]
        have hne : bytes ≠ [] := by
          rintro rfl
          simp [readOnce, Outcome.goesOn] at h
        have hlength := List.length_pos_iff.2 hne
        omega

/-- What arrives from a source is what is forwarded of the first read, and then what arrives from
the rest, or the close. -/
theorem arrivals_eq (source : List Read) :
    arrivals source =
      if (readOnce source).1.goesOn then (readOnce source).1.events ++ arrivals (readOnce source).2
      else [.closed] := by
  cases source with
  | nil => rfl
  | cons read rest =>
    cases read with
    | ended => rfl
    | failed why => rfl
    | data bytes =>
      cases bytes with
      | nil => rfl
      | cons b bs =>
        have hgoesOn : (Outcome.got ((b :: bs).take blockSize)).goesOn = true := rfl
        simp only [readOnce, hgoesOn, if_true, Outcome.events]
        -- What does not fit into a block is left to the reads after it.
        by_cases hrest : (b :: bs).drop blockSize = []
        · rw [if_pos hrest, arrivals, blocks, hrest, blocks]
          rfl
        · have hnonempty : ¬ ((b :: bs).drop blockSize).isEmpty = true := by
            rwa [List.isEmpty_iff]
          rw [if_neg hrest, arrivals, blocks, arrivals, if_neg hnonempty]
          rfl

/-- Every source is at its end at some time. -/
theorem exists_last (source : List Read) : ∃ n, (outcome n source).goesOn = false := by
  -- A block that is too long for the buffer is read in parts, so the reads are not as many as the
  -- elements of the list.
  induction hsize : size source using Nat.strongRecOn generalizing source with
  | ind k ih =>
    cases hgoesOn : (readOnce source).1.goesOn with
    | false => exact ⟨0, hgoesOn⟩
    | true =>
      obtain ⟨n, hn⟩ := ih _ (hsize ▸ size_readOnce_lt hgoesOn) (readOnce source).2 rfl
      exact ⟨n + 1, hn⟩

/-- The `n`-th read is the last one: the others before it go on. -/
structure IsLast (n : Nat) (source : List Read) : Prop where
  /-- The reads before it go on. -/
  goesOn : ∀ i < n, (outcome i source).goesOn = true
  /-- After it nothing is read. -/
  ends : (outcome n source).goesOn = false

/-- Every source has a last read. -/
theorem exists_isLast (source : List Read) : ∃ n, IsLast n source := by
  have hlast := exists_last source
  refine ⟨Nat.find hlast, fun i hi => ?_, Nat.find_spec hlast⟩
  simpa using Nat.find_min hlast hi

/-- The last read but for the first one is the last one of what is left. -/
theorem IsLast.tail {n : Nat} {source : List Read} (h : IsLast (n + 1) source) :
    (readOnce source).1.goesOn = true ∧ IsLast n (readOnce source).2 :=
  ⟨h.goesOn 0 n.succ_pos, fun i hi => h.goesOn (i + 1) (Nat.succ_lt_succ hi), h.ends⟩

/-- What the first `n` reads of a source forward. -/
def events (n : Nat) (source : List Read) : List Arrival :=
  (List.range n).flatMap fun i => (outcome i source).events

theorem events_succ (n : Nat) (source : List Read) :
    events (n + 1) source = (readOnce source).1.events ++ events n (readOnce source).2 := by
  rw [events, List.range_succ_eq_map, List.flatMap_cons, List.flatMap_map]
  rfl

/-- What the reads forward is data. -/
theorem exists_data_of_mem_events {n : Nat} {source : List Read} {a : Arrival}
    (h : a ∈ events n source) : ∃ bytes, a = .data bytes := by
  obtain ⟨i, -, hevent⟩ := List.mem_flatMap.1 h
  cases houtcome : outcome i source with
  | got octets =>
    rw [houtcome] at hevent
    exact ⟨octets, List.mem_singleton.1 hevent⟩
  | failed why =>
    rw [houtcome] at hevent
    cases hevent

/-- What arrives from a source is what the reads before the last one forward, and then a close. -/
theorem arrivals_eq_of_isLast {n : Nat} {source : List Read} (h : IsLast n source) :
    arrivals source = events n source ++ [.closed] := by
  induction n generalizing source with
  | zero =>
    have hends : (readOnce source).1.goesOn = false := h.ends
    rw [arrivals_eq, hends]
    rfl
  | succ n ih =>
    obtain ⟨hgoesOn, hrest⟩ := h.tail
    rw [arrivals_eq, if_pos hgoesOn, ih hrest, events_succ, List.append_assoc]

/-! ### The rounds -/

/-- A reader between two rounds. -/
structure Loop where
  /-- What the source still gives. -/
  source : List Read
  /-- The buffer, with what earlier reads left in it. -/
  buffer : List UInt8
  /-- What has been forwarded so far. -/
  forwarded : List Arrival := []
  /-- Whether the last round is over. -/
  stopped : Bool := false

namespace Loop

/-- The reader tells that the connection is closed, and stops. -/
def close (l : Loop) : Loop := { l with forwarded := l.forwarded ++ [.closed], stopped := true }

/-- One round. What is read is written over the front of the buffer, and as much of the buffer is
forwarded as was read. -/
def turn (l : Loop) : Loop :=
  if l.stopped then l
  else
    let after := { l with source := (readOnce l.source).2 }
    match (readOnce l.source).1 with
    | .got [] => after.close
    | .got (b :: bs) =>
      let buffer := (b :: bs) ++ l.buffer.drop (b :: bs).length
      { after with buffer, forwarded := l.forwarded ++ [.data (buffer.take (b :: bs).length)] }
    | .failed why => if why.isPassing then after else after.close

/-- A round that goes on forwards what was read, and nothing that was left in the buffer. -/
theorem turn_of_goesOn {l : Loop} (hrunning : l.stopped = false)
    (h : (readOnce l.source).1.goesOn = true) : ∃ buffer, l.turn =
      { source := (readOnce l.source).2, buffer,
        forwarded := l.forwarded ++ (readOnce l.source).1.events } := by
  cases houtcome : (readOnce l.source).1 with
  | got octets =>
    cases octets with
    | nil => simp [houtcome, Outcome.goesOn] at h
    | cons b bs =>
      have hfront : ((b :: bs) ++ l.buffer.drop (b :: bs).length).take (b :: bs).length = b :: bs :=
        List.take_left
      refine ⟨(b :: bs) ++ l.buffer.drop (b :: bs).length, ?_⟩
      simp only [turn, hrunning, houtcome, hfront, Outcome.events]
      rfl
  | failed why =>
    have hpassing : why.isPassing = true := by rwa [houtcome] at h
    refine ⟨l.buffer, ?_⟩
    simp [turn, hrunning, houtcome, hpassing, Outcome.events]

/-- Any other round closes the connection. -/
theorem turn_of_ends {l : Loop} (hrunning : l.stopped = false)
    (h : (readOnce l.source).1.goesOn = false) :
    l.turn = close { l with source := (readOnce l.source).2 } := by
  cases houtcome : (readOnce l.source).1 with
  | got octets =>
    have hnone : octets = [] := by simpa [houtcome, Outcome.goesOn] using h
    simp [turn, hrunning, houtcome, hnone]
  | failed why =>
    have hlasting : why.isPassing = false := by rwa [houtcome] at h
    simp [turn, hrunning, houtcome, hlasting]

/-- A reader that has stopped does nothing more. -/
theorem iterate_turn_of_stopped {l : Loop} (h : l.stopped = true) (m : Nat) : turn^[m] l = l := by
  have hturn : l.turn = l := by rw [turn, if_pos h]
  exact Function.iterate_fixed hturn m

/-- From round to round a reader forwards what the reads give. Behind the last read it has forwarded
what arrives from the source, and stays as it is. -/
theorem iterate_turn {n : Nat} {l : Loop} (hrunning : l.stopped = false) (h : IsLast n l.source) :
    (∀ m ≤ n, (turn^[m] l).forwarded = l.forwarded ++ events m l.source ∧
      (turn^[m] l).stopped = false) ∧
    ∀ m, n < m → (turn^[m] l).forwarded = l.forwarded ++ arrivals l.source ∧
      (turn^[m] l).stopped = true := by
  -- From round to round both the source and the buffer change; the rounds go on by what is left.
  induction n generalizing l with
  | zero =>
    refine ⟨fun m hm => ?_, fun m hm => ?_⟩
    · obtain rfl := Nat.le_zero.1 hm
      exact ⟨(List.append_nil _).symm, hrunning⟩
    · obtain ⟨m, rfl⟩ := Nat.exists_eq_succ_of_ne_zero hm.ne'
      rw [Function.iterate_succ_apply, turn_of_ends hrunning h.ends, iterate_turn_of_stopped rfl,
        arrivals_eq_of_isLast h]
      exact ⟨rfl, rfl⟩
  | succ n ih =>
    obtain ⟨hgoesOn, hrest⟩ := h.tail
    obtain ⟨buffer, hturn⟩ := turn_of_goesOn hrunning hgoesOn
    have hrunning' : l.turn.stopped = false := by rw [hturn]
    have hrest' : IsLast n l.turn.source := by rwa [hturn]
    obtain ⟨hbefore, hbehind⟩ := ih hrunning' hrest'
    rw [hturn] at hbefore hbehind
    refine ⟨fun m hm => ?_, fun m hm => ?_⟩
    · cases m with
      | zero => exact ⟨(List.append_nil _).symm, hrunning⟩
      | succ m =>
        rw [Function.iterate_succ_apply, hturn, events_succ, ← List.append_assoc]
        exact hbefore m (Nat.le_of_succ_le_succ hm)
    · obtain ⟨m, rfl⟩ := Nat.exists_eq_succ_of_ne_zero (Nat.zero_lt_of_lt hm).ne'
      rw [Function.iterate_succ_apply, hturn, arrivals_eq l.source, if_pos hgoesOn,
        ← List.append_assoc]
      exact hbehind m (Nat.lt_of_succ_lt_succ hm)

end Loop

/-! ### The octets -/

/-- Whether the source is read again after a read. -/
def Read.goesOn : Read → Bool
  | .data bytes => !bytes.isEmpty
  | .ended => false
  | .failed why => why.isPassing

/-- The octets that a source gives in one or more reads. -/
def Read.octets : Read → List UInt8
  | .data bytes => bytes
  | .ended | .failed _ => []

/-- The octets that are read from a source. -/
def octetsRead (source : List Read) : List UInt8 :=
  (source.takeWhile Read.goesOn).flatMap Read.octets

/-- Blocks are the octets, cut. -/
theorem flatten_blocks (bytes : List UInt8) : (blocks bytes).flatten = bytes := by
  induction bytes using blocks.induct with
  | case1 => rw [blocks, List.flatten_nil]
  | case2 b bs ih => rw [blocks, List.flatten_cons, ih, List.take_append_drop]

/-- A block has an octet at least, and no more than there is room for. -/
theorem length_of_mem_blocks {bytes block : List UInt8} (h : block ∈ blocks bytes) :
    0 < block.length ∧ block.length ≤ blockSize := by
  induction bytes using blocks.induct with
  | case1 => simp [blocks] at h
  | case2 b bs ih =>
    rw [blocks, List.mem_cons] at h
    rcases h with rfl | h
    · exact ⟨by simp [blockSize], List.length_take_le _ _⟩
    · exact ih h

/-- The octets that arrive from a source are those that are read. -/
theorem octets_arrivals (source : List Read) :
    (arrivals source).flatMap octetsOf = octetsRead source := by
  induction source with
  | nil => rfl
  | cons read rest ih =>
    cases read with
    | ended => rfl
    | failed why =>
      cases why with
      | timedOut | interrupted => exact ih
      | wouldBlock | broken => rfl
    | data bytes =>
      cases bytes with
      | nil => rfl
      | cons b bs =>
        have hblocks : ((blocks (b :: bs)).map Arrival.data).flatMap octetsOf = b :: bs := by
          rw [List.flatMap_map]
          exact List.flatMap_id'.trans (flatten_blocks (b :: bs))
        rw [arrivals, if_neg (by simp), List.flatMap_append, hblocks, ih]
        rfl

/-- What arrives from a source as data is at most a block, and never empty. -/
theorem length_of_mem_arrivals {source : List Read} {bytes : List UInt8}
    (h : .data bytes ∈ arrivals source) : 0 < bytes.length ∧ bytes.length ≤ blockSize := by
  induction source with
  | nil => simp [arrivals] at h
  | cons read rest ih =>
    cases read with
    | ended => simp [arrivals] at h
    | failed why =>
      cases why with
      | timedOut | interrupted => exact ih h
      | wouldBlock | broken => simp [arrivals, ReadFailure.isPassing] at h
    | data octets =>
      rw [arrivals] at h
      split_ifs at h
      · simp at h
      · rcases List.mem_append.1 h with h | h
        · obtain ⟨block, hblock, heq⟩ := List.mem_map.1 h
          cases heq
          exact length_of_mem_blocks hblock
        · exact ih h

/-- Failures after which the source is read again make no difference. -/
def Read.isPassing : Read → Bool
  | .failed why => why.isPassing
  | .data _ | .ended => false

theorem arrivals_filter_not_isPassing (source : List Read) :
    arrivals (source.filter fun read => !read.isPassing) = arrivals source := by
  induction source with
  | nil => rfl
  | cons read rest ih =>
    cases read with
    | ended => rfl
    | failed why =>
      cases why with
      | timedOut | interrupted => exact ih
      | wouldBlock | broken => rfl
    | data bytes =>
      show arrivals (.data bytes :: rest.filter _) = _
      rw [arrivals, arrivals, ih]

end BringUp.Reader
