import BringUp.Proofs.Reply.Isolation
import BringUp.Proofs.Reply.Record
import BringUp.Session

/-!
# Pumping a stream until it is closed

The owner of a stream may pump it until it turns out to be closed, and wait whenever nothing is
there yet. He may be slow, so that more and more is there before he looks again. It makes no
difference: he takes all there is up to the close.

* `Stream.PumpedOut`: a stream is pumped until it is closed.
* `Stream.exists_pumpedOut`: this comes to an end if a close is to come.
* `Stream.takes_of_pumpedOut`: all that is to come is taken then.
* `Link.emit_of_inOrder`: what a device sends in the order of its delays arrives in that order.
-/

namespace BringUp

namespace Reply.Stream

/-- A stream is pumped from the time `now` on until it is closed. Time may pass before each attempt,
and has to where there is nothing to take yet. -/
inductive PumpedOut : Nat → Stream → Stream → Prop where
  /-- The stream is closed. -/
  | last {now : Nat} {s s' : Stream} : s.pump? now = some (false, s') → PumpedOut now s s'
  /-- Something is taken, and the stream is still open. -/
  | more {now later : Nat} {s middle s' : Stream} : s.pump? now = some (true, middle) →
      now ≤ later → PumpedOut later middle s' → PumpedOut now s s'
  /-- Nothing is there yet. -/
  | wait {now later : Nat} {s s' : Stream} : s.pump? now = none → now < later →
      PumpedOut later s s' → PumpedOut now s s'

variable {now : Nat} {s s' : Stream}

/-- A pump tells whether the stream is open behind what it takes. -/
theorem isOpen_of_pump? {isOpen : Bool} (h : s.pump? now = some (isOpen, s')) :
    s'.closed = !isOpen := by
  unfold pump? at h
  split at h
  · rename_i hclosed
    cases h
    exact hclosed
  · split at h
    · split at h <;> cases h
      rfl
    · split at h <;> cases h
      exact (Bool.not_not _).symm

/-- What is taken by one time, and then by a later one. -/
theorem Takes.append {later : Nat} {middle : Stream} {taken more : List (Nat × Arrival)}
    (h : Takes now s taken middle) (hopen : middle.closed = false) (hle : now ≤ later)
    (hmore : Takes later middle more s') : Takes later s (taken ++ more) s' := by
  induction h with
  | stop s => exact hmore
  | close _ _ => cases hopen
  | take hs harrivals htime _ ih =>
    exact .take hs harrivals (Nat.le_trans htime hle) (ih hopen hmore)

namespace PumpedOut

/-- A stream that has been pumped out is closed. -/
theorem closed (h : PumpedOut now s s') : s'.closed = true := by
  induction h with
  | last hpump => exact isOpen_of_pump? hpump
  | more _ _ _ ih => exact ih
  | wait _ _ _ ih => exact ih

/-- Pumping takes arrivals. -/
theorem takes (h : PumpedOut now s s') : ∃ later taken, now ≤ later ∧ Takes later s taken s' := by
  induction h with
  | last hpump =>
    obtain ⟨taken, htaken⟩ := takes_pump hpump
    exact ⟨_, taken, Nat.le_refl _, htaken⟩
  | more hpump hle _ ih =>
    obtain ⟨first, hfirst⟩ := takes_pump hpump
    obtain ⟨later, rest, hlater, hrest⟩ := ih
    have hnow := Nat.le_trans hle hlater
    exact ⟨later, first ++ rest, hnow, hfirst.append (isOpen_of_pump? hpump) hnow hrest⟩
  | wait _ hlt _ ih =>
    obtain ⟨later, taken, hlater, htaken⟩ := ih
    exact ⟨later, taken, Nat.le_trans (Nat.le_of_lt hlt) hlater, htaken⟩

end PumpedOut

/-- A stream to which a close is to come can be pumped until it is closed. -/
theorem exists_pumpedOut (hclose : ∃ time, (time, .closed) ∈ s.inbox.arrivals) (now : Nat) :
    ∃ s', PumpedOut now s s' := by
  cases hclosed : s.closed with
  | true => exact ⟨s, .last (by rw [pump?, if_pos hclosed])⟩
  | false =>
    induction harrivals : s.inbox.arrivals generalizing s now with
    | nil => simp [harrivals] at hclose
    | cons arrival rest ih =>
      obtain ⟨time, a⟩ := arrival
      -- The owner waits for the next arrival, if it is not there yet, and takes it.
      have htaken (later : Nat) (hdue : time ≤ later) : ∃ s', PumpedOut later s s' := by
        have hpump := pump?_of_due hclosed harrivals hdue
        cases a with
        | closed => exact ⟨_, .last hpump⟩
        | data bytes =>
          have hopen : ((s.withArrivals rest).take (.data bytes)).closed = false := hclosed
          have hrest : ((s.withArrivals rest).take (.data bytes)).inbox.arrivals = rest := rfl
          have hclose' : ∃ time,
              (time, .closed) ∈ ((s.withArrivals rest).take (.data bytes)).inbox.arrivals := by
            rw [hrest]
            simpa [harrivals] using hclose
          obtain ⟨s', hs'⟩ := ih hclose' later hopen hrest
          exact ⟨s', .more (by rw [hpump, hopen]; rfl) (Nat.le_refl later) hs'⟩
      by_cases hdue : time ≤ now
      · exact htaken now hdue
      · have hwait : s.pump? now = none := by simp [pump?, hclosed, harrivals, hdue]
        obtain ⟨s', hs'⟩ := htaken time (Nat.le_refl time)
        exact ⟨s', .wait hwait (Nat.lt_of_not_le hdue) hs'⟩

/-- All that is to come is taken when an open stream is pumped out, if it ends with its one close. -/
theorem takes_of_pumpedOut (h : PumpedOut now s s') (hopen : s.closed = false)
    (hup : s.inbox.hungUp = false) {front : List (Nat × Arrival)} {time : Nat}
    (harrivals : s.inbox.arrivals = front ++ [(time, .closed)])
    (hfront : ∀ arrival ∈ front, arrival.2 ≠ .closed) :
    s'.inbox.arrivals = [] ∧ ∃ later, Takes later s s.inbox.arrivals s' := by
  obtain ⟨later, taken, -, htaken⟩ := h.takes
  have hall := htaken.arrivals_eq
  -- A close has been taken, and there is only the one at the end.
  have hnone : s'.inbox.arrivals = [] := by
    rcases htaken.closed_cases hopen h.closed with ⟨before, due, rfl⟩ | ⟨hup', -⟩
    · rcases List.eq_nil_or_concat s'.inbox.arrivals with hnil | ⟨rest, last, hrest⟩
      · exact hnil
      · have hsplit : before ++ [(due, Arrival.closed)] ++ rest ++ [last] =
            front ++ [(time, .closed)] := by
          rw [← harrivals, hall, hrest, List.concat_eq_append, ← List.append_assoc]
        have hmem : (due, Arrival.closed) ∈ front := by
          rw [← (List.append_inj' hsplit rfl).1]
          simp
        exact absurd rfl (hfront _ hmem)
    · rw [htaken.hungUp_eq, hup] at hup'
      cases hup'
  refine ⟨hnone, later, ?_⟩
  rw [hnone, List.append_nil] at hall
  rwa [hall]

end Reply.Stream

open Reply (Inbox)

/-- Things that are posted in the order of their delays, behind all that is due no later, are due in
that order. -/
theorem Reply.Inbox.foldl_post_of_inOrder {now : Nat} {emissions : List Emission}
    (horder : emissions.Pairwise fun first second => first.delay ≤ second.delay)
    {taken : List (Nat × Reply.Arrival)}
    (htaken : ∀ arrival ∈ taken, ∀ e ∈ emissions, arrival.1 ≤ now + e.delay) :
    emissions.foldl (fun inbox e => inbox.post now e.delay e.arrival)
        ({ arrivals := taken } : Inbox) =
      { arrivals := taken ++ emissions.map fun e => (now + e.delay, e.arrival) } := by
  induction emissions generalizing taken with
  | nil => rw [List.map_nil, List.append_nil]; rfl
  | cons e emissions ih =>
    obtain ⟨hfirst, horder⟩ := List.pairwise_cons.1 horder
    have hput : Inbox.post now e.delay e.arrival { arrivals := taken } =
        { arrivals := taken ++ [(now + e.delay, e.arrival)] } := by
      have hdue : ∀ arrival ∈ taken, arrival.1 ≤ now + e.delay := fun arrival hmem =>
        htaken arrival hmem e List.mem_cons_self
      have hbehind := Reply.schedule_append (a := e.arrival) hdue []
      rw [List.append_nil] at hbehind
      simp only [Inbox.post, hbehind]
      rfl
    rw [List.foldl_cons, hput, ih horder, List.append_assoc]
    · rfl
    · intro arrival hmem later hlater
      rcases List.mem_append.1 hmem with hmem | hmem
      · exact htaken arrival hmem later (List.mem_cons_of_mem e hlater)
      · obtain rfl := List.mem_singleton.1 hmem
        exact Nat.add_le_add_left (hfirst later hlater) now

/-- What a device sends over a link on which nothing is to come arrives in the order in which it is
sent, if the delays are in this order. -/
theorem Link.emit_of_inOrder {l : Link} (hnone : l.replies.inbox = {}) (now : Nat)
    {emissions : List Emission}
    (horder : emissions.Pairwise fun first second => first.delay ≤ second.delay) :
    l.emit now emissions =
      { l with
        replies.inbox := { arrivals := emissions.map fun e => (now + e.delay, e.arrival) } } := by
  have hposted : emissions.foldl (fun inbox e => inbox.post now e.delay e.arrival) ({} : Inbox) =
      { arrivals := emissions.map fun e => (now + e.delay, e.arrival) } :=
    Inbox.foldl_post_of_inOrder horder (List.forall_mem_nil _)
  rw [emit_eq, hnone, hposted]

end BringUp
