import BringUp.Reply.Wait
import BringUp.Proofs.Reply.Taking

/-!
# Streams at a later time

Nothing about a stream depends on the time of day: if all that arrives comes later by as much as the
owner does, the owner is given the same, later by as much.

* `Stream.later`: the stream with everything to come later.
* `Stream.drain_later`, `Stream.pump?_later`, `Stream.await_later`: what its owner is given.
-/

namespace BringUp.Reply

/-- Arrivals, each later by `n`. -/
def laterBy (n : Nat) (arrivals : List (Nat × Arrival)) : List (Nat × Arrival) :=
  arrivals.map fun arrival => (n + arrival.1, arrival.2)

@[simp]
theorem laterBy_nil (n : Nat) : laterBy n [] = [] := rfl

@[simp]
theorem laterBy_cons (n time : Nat) (a : Arrival) (rest : List (Nat × Arrival)) :
    laterBy n ((time, a) :: rest) = (n + time, a) :: laterBy n rest := rfl

/-- What is due later is put at the same place. -/
theorem schedule_laterBy (n due : Nat) (a : Arrival) (arrivals : List (Nat × Arrival)) :
    schedule (n + due) a (laterBy n arrivals) = laterBy n (schedule due a arrivals) := by
  induction arrivals with
  | nil => rfl
  | cons arrival rest ih =>
    obtain ⟨time, b⟩ := arrival
    rw [laterBy_cons, schedule, schedule, ih]
    by_cases hdue : time ≤ due
    · rw [if_pos (Nat.add_le_add_left hdue n), if_pos hdue, laterBy_cons]
    · rw [if_neg (by omega), if_neg hdue, laterBy_cons, laterBy_cons]

namespace Inbox

/-- The inbox with everything to come later by `n`. -/
def later (n : Nat) (i : Inbox) : Inbox := { i with arrivals := laterBy n i.arrivals }

/-- What is sent later arrives later. -/
theorem post_later (n now delay : Nat) (a : Arrival) (i : Inbox) :
    (i.later n).post (n + now) delay a = (i.post now delay a).later n := by
  obtain ⟨arrivals, hungUp⟩ := i
  cases hungUp with
  | true => rfl
  | false =>
    show ({ arrivals := schedule (n + now + delay) a (laterBy n arrivals) } : Inbox) = _
    rw [Nat.add_assoc, schedule_laterBy]
    rfl

/-- There is something to take later. -/
theorem due_later (n now : Nat) (i : Inbox) :
    (i.later n).due (n + now) = (i.due now).map (n + ·) := by
  obtain ⟨arrivals, hungUp⟩ := i
  cases arrivals with
  | nil => cases hungUp <;> rfl
  | cons arrival rest => rfl

end Inbox

namespace Stream

/-- The stream with everything to come later by `n`. -/
def later (n : Nat) (s : Stream) : Stream := { s with inbox := s.inbox.later n }

section Fields

variable (n : Nat) (s : Stream) (a : Arrival) (arrivals : List (Nat × Arrival))

@[simp]
theorem withArrivals_later :
    (s.later n).withArrivals (laterBy n arrivals) = (s.withArrivals arrivals).later n := rfl

@[simp]
theorem take_later : (s.later n).take a = (s.take a).later n := by cases a <;> rfl

@[simp]
theorem disarm_later : (s.later n).disarm = s.disarm.later n := rfl

end Fields

theorem drainFrom_later (n now : Nat) (arrivals : List (Nat × Arrival)) (s : Stream) :
    drainFrom (n + now) (laterBy n arrivals) (s.later n) =
      (drainFrom now arrivals s).later n := by
  induction arrivals generalizing s with
  | nil => rfl
  | cons arrival rest ih =>
    obtain ⟨time, a⟩ := arrival
    have hclosed : (s.later n).closed = s.closed := rfl
    rw [laterBy_cons, drainFrom, drainFrom, hclosed, take_later, ih, ← laterBy_cons,
      withArrivals_later]
    simp only [Nat.add_le_add_iff_left, apply_ite (later n)]

/-- What is drained later is the same. -/
theorem drain_later (n now : Nat) (s : Stream) :
    (s.later n).drain (n + now) = (s.drain now).later n :=
  drainFrom_later n now s.inbox.arrivals s

/-- A stream that is armed later hides the same. -/
theorem arm_later (n now : Nat) (s : Stream) : (s.later n).arm (n + now) = (s.arm now).later n := by
  rw [arm, drain_later]
  rfl

/-- There is something to take, or the end to notice, later. -/
theorem due_later (n now : Nat) (s : Stream) :
    (s.later n).due (n + now) = (s.due now).map (n + ·) := by
  have hclosed : (s.later n).closed = s.closed := rfl
  have hinbox : (s.later n).inbox = s.inbox.later n := rfl
  rw [due, due, hclosed, hinbox, Inbox.due_later]
  cases s.closed <;> rfl

/-- Who looks at the stream later sees the same. -/
theorem pump?_later (n now : Nat) (s : Stream) :
    (s.later n).pump? (n + now) = (s.pump? now).map fun found => (found.1, found.2.later n) := by
  have hclosed : (s.later n).closed = s.closed := rfl
  have harrivals : (s.later n).inbox.arrivals = laterBy n s.inbox.arrivals := rfl
  have hup : (s.later n).inbox.hungUp = s.inbox.hungUp := rfl
  rw [pump?, pump?, hclosed, harrivals, hup]
  cases s.closed with
  | true => rfl
  | false =>
    cases s.inbox.arrivals with
    | nil => cases s.inbox.hungUp <;> rfl
    | cons arrival rest =>
      obtain ⟨time, a⟩ := arrival
      simp only [laterBy_cons, Nat.add_le_add_iff_left, withArrivals_later, take_later]
      split_ifs <;> rfl

theorem awaitFrom_later (wait : Wait) (deadline n now : Nat) (arrivals : List (Nat × Arrival))
    (s : Stream) :
    awaitFrom wait (n + deadline) (laterBy n arrivals) (n + now) (s.later n) =
      ((awaitFrom wait deadline arrivals now s).1,
        n + (awaitFrom wait deadline arrivals now s).2.1,
        (awaitFrom wait deadline arrivals now s).2.2.later n) := by
  have hlines (s : Stream) : (s.later n).lines = s.lines := rfl
  have hclosed (s : Stream) : (s.later n).closed = s.closed := rfl
  have hup (s : Stream) : (s.later n).inbox.hungUp = s.inbox.hungUp := rfl
  induction arrivals generalizing now s with
  | nil =>
    rw [laterBy_nil, awaitFrom, awaitFrom, hlines, hclosed, hup]
    cases wait.resolve? s.lines with
    | some found => rfl
    | none =>
      simp only
      split_ifs
      · rfl
      · rfl
      · rw [Nat.add_max_add_left]
        rfl
  | cons arrival rest ih =>
    -- The deadline, the arrival and the present are later by as much, so no test comes out else.
    obtain ⟨time, a⟩ := arrival
    rw [laterBy_cons, awaitFrom, awaitFrom, hlines, hclosed]
    cases wait.resolve? s.lines with
    | some found => rfl
    | none =>
      simp only [Nat.add_le_add_iff_left, Nat.add_lt_add_iff_left, Nat.add_max_add_left, take_later,
        ih]
      split_ifs <;> rfl

/-- Who waits later is given the same, later by as much. -/
theorem await_later (wait : Wait) (timeout n now : Nat) (s : Stream) :
    (s.later n).await wait timeout (n + now) =
      ((s.await wait timeout now).1, n + (s.await wait timeout now).2.1,
        (s.await wait timeout now).2.2.later n) := by
  have harrivals : (s.later n).inbox.arrivals = laterBy n s.inbox.arrivals := rfl
  have hwait := awaitFrom_later wait (now + timeout) n now s.inbox.arrivals s
  rw [← Nat.add_assoc] at hwait
  unfold await
  rw [harrivals, hwait]
  rfl

end Stream

end BringUp.Reply
