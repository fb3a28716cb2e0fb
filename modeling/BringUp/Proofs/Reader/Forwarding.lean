import BringUp.Proofs.Reader.Rounds
import BringUp.Proofs.Reply.Pumping
import Mathlib.Order.Monotone.Basic

/-!
# What a reader forwards over a link

A reader forwards each read as it comes, so that the events arrive at some times, one after the
other. Whoever pumps the link until it is closed has taken all of them.

* `forward`: the events, each with its delay.
* `takes_of_pumpedOut_emit`: what is taken of a link that is pumped until it is closed.
* `forwards_all_then_closes`: a reader forwards everything that is read, and then a close.
-/

namespace BringUp.Reader

open Reply (Arrival Stream)

/-- What arrives from a source, the `n`-th event after the delay `delays n`. -/
def forward (delays : Nat → Nat) (source : List Read) : List Emission :=
  (arrivals source).mapIdx fun n arrival => { delay := delays n, arrival }

variable {delays : Nat → Nat}

/-- The events come in their order. -/
theorem inOrder_forward (hdelays : Monotone delays) (source : List Read) :
    (forward delays source).Pairwise fun first second => first.delay ≤ second.delay := by
  rw [forward, List.pairwise_iff_getElem]
  intro i j hi hj hlt
  rw [List.getElem_mapIdx, List.getElem_mapIdx]
  exact hdelays hlt.le

/-- What arrives, with the times. -/
def timed (now : Nat) (delays : Nat → Nat) (source : List Read) : List (Nat × Arrival) :=
  (forward delays source).map fun e => (now + e.delay, e.arrival)

/-- What arrives, without the times. -/
theorem map_snd_timed (now : Nat) (delays : Nat → Nat) (source : List Read) :
    (timed now delays source).map Prod.snd = arrivals source := by
  apply List.ext_getElem
  · simp [timed, forward]
  · simp [timed, forward]

/-- The only close is the last thing that arrives. -/
theorem timed_eq_append (now : Nat) (delays : Nat → Nat) (source : List Read) :
    ∃ front time, timed now delays source = front ++ [(time, .closed)] ∧
      ∀ arrival ∈ front, arrival.2 ≠ .closed := by
  obtain ⟨n, hlast⟩ := exists_isLast source
  have hall := map_snd_timed now delays source
  rw [arrivals_eq_of_isLast hlast] at hall
  obtain ⟨front, last, htimed, hfront, hclose⟩ := List.map_eq_append_iff.1 hall
  obtain ⟨⟨time, a⟩, rfl, rfl⟩ := List.map_eq_singleton_iff.1 hclose
  refine ⟨front, time, htimed, fun arrival hmem hclosed => ?_⟩
  have hevent : arrival.2 ∈ events n source := by
    rw [← hfront]
    exact List.mem_map_of_mem hmem
  obtain ⟨bytes, hbytes⟩ := exists_data_of_mem_events hevent
  rw [hclosed] at hbytes
  cases hbytes

/-- A link over which nothing is to come but what a reader forwards. -/
theorem inbox_emit_forward (hdelays : Monotone delays) (source : List Read) (now : Nat) {l : Link}
    (hnone : l.replies.inbox = {}) :
    (l.emit now (forward delays source)).replies =
      { l.replies with inbox := { arrivals := timed now delays source } } := by
  rw [Link.emit_of_inOrder hnone now (inOrder_forward hdelays source)]
  rfl

variable {l : Link} {now : Nat} {source : List Read} {s' : Stream}

/-- Such a link can be pumped until it is closed. -/
theorem exists_pumpedOut_emit (hdelays : Monotone delays) (hnone : l.replies.inbox = {}) :
    ∃ s', Stream.PumpedOut now (l.emit now (forward delays source)).replies s' := by
  rw [inbox_emit_forward hdelays source now hnone]
  apply Stream.exists_pumpedOut
  obtain ⟨front, time, htimed, -⟩ := timed_eq_append now delays source
  exact ⟨time, by simp [htimed]⟩

/-- Whoever pumps such a link until it is closed takes all that arrives. -/
theorem takes_of_pumpedOut_emit (hdelays : Monotone delays) (hnone : l.replies.inbox = {})
    (hopen : l.replies.closed = false)
    (h : Stream.PumpedOut now (l.emit now (forward delays source)).replies s') :
    s'.inbox.arrivals = [] ∧ ∃ later, Stream.Takes later
      { l.replies with inbox := { arrivals := timed now delays source } }
      (timed now delays source) s' := by
  rw [inbox_emit_forward hdelays source now hnone] at h
  obtain ⟨front, time, htimed, hfront⟩ := timed_eq_append now delays source
  exact Stream.takes_of_pumpedOut h hopen rfl htimed hfront

/-- The text of what arrives does not depend on the times. -/
theorem textOf_timed (now : Nat) (delays : Nat → Nat) (source : List Read) :
    Reply.textOf (timed now delays source) = String.join ((arrivals source).map Arrival.text) := by
  rw [← map_snd_timed now delays source, List.map_map]
  rfl

/-- A reader forwards what is read, read by read: the octets of each read as they are, up to the
first one that gives none or fails for good, then a close, and then nothing. No data is empty or
larger than the buffer, failures that pass make no difference, and the octets are those that are
read. However long the events take, and however fast the link is pumped, it can be pumped until it
is closed, and then the text of all of them has been recorded. -/
theorem forwards_all_then_closes (hdelays : Monotone delays) (source : List Read) :
    (∃ n, IsLast n source ∧
      arrivals source =
        ((List.range n).flatMap fun i => (outcome i source).events) ++ [.closed] ∧
      ∀ buffer,
        (∀ m ≤ n, (Loop.turn^[m] { source, buffer }).forwarded =
          (List.range m).flatMap fun i => (outcome i source).events) ∧
        ∀ m, n < m → (Loop.turn^[m] { source, buffer }).forwarded = arrivals source ∧
          (Loop.turn^[m] { source, buffer }).stopped = true) ∧
    (∀ bytes, .data bytes ∈ arrivals source → 0 < bytes.length ∧ bytes.length ≤ blockSize) ∧
    arrivals (source.filter fun read => !read.isPassing) = arrivals source ∧
    (arrivals source).flatMap octetsOf = octetsRead source ∧
    ∀ name device now,
      let connection : Connection := { name, device, greeting := forward delays source }
      let s := (connection.link now).replies
      (∃ s', s.PumpedOut now s') ∧
      ∀ s', s.PumpedOut now s' → s'.closed = true ∧ s'.inbox.arrivals = [] ∧
        s'.transcript = String.join ((arrivals source).map Arrival.text) := by
  obtain ⟨n, hlast⟩ := exists_isLast source
  refine ⟨⟨n, hlast, arrivals_eq_of_isLast hlast, fun buffer => ?_⟩,
    fun bytes => length_of_mem_arrivals, arrivals_filter_not_isPassing source,
    octets_arrivals source, fun name device now => ?_⟩
  · obtain ⟨hbefore, hbehind⟩ := Loop.iterate_turn (l := { source, buffer }) rfl hlast
    exact ⟨fun m hm => (hbefore m hm).1, hbehind⟩
  · intro connection s
    have hnew : ({ name, device } : Link).replies.inbox = {} := rfl
    refine ⟨exists_pumpedOut_emit hdelays hnew, fun s' hs' => ?_⟩
    obtain ⟨hnone, later, htaken⟩ := takes_of_pumpedOut_emit hdelays hnew rfl hs'
    refine ⟨hs'.closed, hnone, ?_⟩
    rw [htaken.transcript_eq, textOf_timed]
    exact String.empty_append

/-- Failures that pass between the reads are not noticed, and what comes behind a failure for good
is not read. -/
theorem passing_failures_unnoticed :
    let source := [Read.failed .timedOut, .data [79, 75], .failed .interrupted, .data [33],
      .failed .broken, .data [63]]
    let connection : Connection :=
      { name := "COM1", device := default, greeting := forward (fun n => 100 * n) source }
    Monotone (fun n : Nat => 100 * n) ∧
      ∃ s', Stream.PumpedOut 5 (connection.link 5).replies s' ∧ s'.closed = true ∧
        s'.transcript = "OK!" := by
  intro source connection
  have hdelays : Monotone (fun n : Nat => 100 * n) := fun _ _ h => Nat.mul_le_mul_left 100 h
  obtain ⟨-, -, -, -, hpumped⟩ := forwards_all_then_closes hdelays source
  obtain ⟨⟨s', hs'⟩, hall⟩ := hpumped "COM1" default 5
  obtain ⟨hclosed, -, htranscript⟩ := hall s' hs'
  have harrivals : arrivals source = [.data [79, 75], .data [33], .closed] := by
    simp [source, arrivals, blocks, blockSize, ReadFailure.isPassing]
  rw [harrivals] at htranscript
  exact ⟨hdelays, s', hs', hclosed, htranscript.trans (by decide)⟩

end BringUp.Reader
