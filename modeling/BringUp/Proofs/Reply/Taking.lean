import BringUp.Reply.Wait
import Mathlib.Tactic.SplitIfs

/-!
# Taking what has arrived

The owner of a stream gets at what the device sends in four ways: it drains the stream, looks at it,
asks for the next line, or waits. All four take arrivals from the earliest on, one after the other,
and may notice behind the last one that the device has hung up. They differ in how far they go, and
in what they do with the queue afterwards.

* `Stream.Takes`: what is taken from one stream to another.
* `Stream.takes_drain`, `Stream.takes_pump`, `Stream.takes_nextLine`, `Stream.takes_await`: the
  operations.
* `Stream.Takes.arrivals_eq`, `Stream.Takes.transcript_eq`: what is taken leaves the inbox from its
  front, and its text is added to the transcript.
-/

namespace BringUp.Reply

/-- The text of arrivals, one after the other. -/
def textOf (arrivals : List (Nat × Arrival)) : String :=
  String.join (arrivals.map fun arrival => arrival.2.text)

@[simp]
theorem textOf_nil : textOf [] = "" := rfl

@[simp]
theorem textOf_cons (arrival : Nat × Arrival) (arrivals : List (Nat × Arrival)) :
    textOf (arrival :: arrivals) = arrival.2.text ++ textOf arrivals :=
  String.join_cons

@[simp]
theorem textOf_append (arrivals more : List (Nat × Arrival)) :
    textOf (arrivals ++ more) = textOf arrivals ++ textOf more := by
  rw [textOf, List.map_append, String.join_append]
  rfl

namespace Stream

section Fields

variable (s : Stream) (a : Arrival) (arrivals others : List (Nat × Arrival))

@[simp]
theorem withArrivals_self : s.withArrivals s.inbox.arrivals = s := rfl

@[simp]
theorem withArrivals_withArrivals :
    (s.withArrivals others).withArrivals arrivals = s.withArrivals arrivals := rfl

/-- What is still to come does not matter to what is taken. -/
theorem take_withArrivals :
    (s.withArrivals arrivals).take a = (s.take a).withArrivals arrivals := by
  cases a <;> rfl

@[simp]
theorem inbox_take : (s.take a).inbox = s.inbox := by cases a <;> rfl

@[simp]
theorem armed_take : (s.take a).armed = s.armed := by cases a <;> rfl

end Fields

/-- By the time `now`, arrivals are taken from a stream, the earliest first, and perhaps the end of
the connection is noticed behind the last one. -/
inductive Takes (now : Nat) : Stream → List (Nat × Arrival) → Stream → Prop where
  /-- Nothing more is taken. -/
  | stop (s : Stream) : Takes now s [] s
  /-- The end of the connection is noticed. -/
  | close {s : Stream} : s.inbox.arrivals = [] → s.inbox.hungUp = true →
      Takes now s [] { s with closed := true }
  /-- The next arrival is taken. -/
  | take {s s' : Stream} {time : Nat} {a : Arrival} {rest taken : List (Nat × Arrival)} :
    s.closed = false → s.inbox.arrivals = (time, a) :: rest → time ≤ now →
      Takes now ((s.withArrivals rest).take a) taken s' → Takes now s ((time, a) :: taken) s'

namespace Takes

variable {now later : Nat} {s s' : Stream} {taken : List (Nat × Arrival)}

/-- What is taken by some time is taken by every later time. -/
theorem mono (h : Takes now s taken s') (hle : now ≤ later) : Takes later s taken s' := by
  induction h with
  | stop s => exact .stop s
  | close hnone hup => exact .close hnone hup
  | take hopen harrivals htime _ ih => exact .take hopen harrivals (Nat.le_trans htime hle) ih

/-- The next arrival is taken before the others. -/
theorem cons {time : Nat} {a : Arrival} {rest : List (Nat × Arrival)} (hopen : ¬ s.closed = true)
    (htime : time ≤ now) (h : Takes now ((s.take a).withArrivals rest) taken s') :
    Takes now (s.withArrivals ((time, a) :: rest)) ((time, a) :: taken) s' := by
  have hrest : Takes now (((s.withArrivals ((time, a) :: rest)).withArrivals rest).take a) taken
      s' := by
    rwa [withArrivals_withArrivals, take_withArrivals]
  exact .take (by simpa [withArrivals] using hopen) rfl htime hrest

/-- What is taken leaves the inbox from its front. -/
theorem arrivals_eq (h : Takes now s taken s') :
    s.inbox.arrivals = taken ++ s'.inbox.arrivals := by
  induction h with
  | stop s => rfl
  | close _ _ => rfl
  | @take s s' time a rest taken _ harrivals _ _ ih =>
    have hrest : ((s.withArrivals rest).take a).inbox.arrivals = rest := by
      rw [inbox_take, withArrivals]
    rw [harrivals, List.cons_append, ← ih, hrest]

/-- The owner does not hang up. -/
theorem hungUp_eq (h : Takes now s taken s') : s'.inbox.hungUp = s.inbox.hungUp := by
  induction h with
  | stop s => rfl
  | close _ _ => rfl
  | take _ _ _ _ ih => rw [ih, inbox_take]; rfl

/-- What is taken has arrived. -/
theorem time_le (h : Takes now s taken s') : ∀ arrival ∈ taken, arrival.1 ≤ now := by
  induction h with
  | stop s => simp
  | close _ _ => simp
  | take _ _ htime _ ih => exact List.forall_mem_cons.2 ⟨htime, ih⟩

/-- The text of what is taken is added to the transcript. -/
theorem transcript_eq (h : Takes now s taken s') :
    s'.transcript = s.transcript ++ textOf taken := by
  induction h with
  | stop s => simp
  | close _ _ => simp
  | @take s s' time a rest taken _ _ _ _ ih =>
    have hfirst : ((s.withArrivals rest).take a).transcript = s.transcript ++ a.text :=
      transcript_take a _
    rw [ih, hfirst, textOf_cons, String.append_assoc]

/-- Taking arms no wait and ends none. -/
theorem armed_eq (h : Takes now s taken s') : s'.armed = s.armed := by
  induction h with
  | stop s => rfl
  | close _ _ => rfl
  | take _ _ _ _ ih => rw [ih, armed_take]; rfl

/-- A closed stream stays closed. -/
theorem closed_of_closed (h : Takes now s taken s') (hclosed : s.closed = true) :
    s'.closed = true := by
  cases h with
  | stop _ => exact hclosed
  | close _ _ => rfl
  | take hopen _ _ _ => rw [hclosed] at hopen; cases hopen

/-- Nothing is taken from a closed stream. -/
theorem eq_nil_of_closed (h : Takes now s taken s') (hclosed : s.closed = true) : taken = [] := by
  cases h with
  | stop _ => rfl
  | close _ _ => rfl
  | take hopen _ _ _ => rw [hclosed] at hopen; cases hopen

end Takes

/-! ### The operations

Each operation runs over a list of arrivals beside the stream, so that the stream which it starts
from is the one with that list to come. -/

theorem takes_drainFrom (now : Nat) (arrivals : List (Nat × Arrival)) (s : Stream) :
    ∃ taken, Takes now (s.withArrivals arrivals) taken (drainFrom now arrivals s) := by
  -- Each arrival that is due is taken; the list that is left stands in for the inbox.
  induction arrivals generalizing s with
  | nil =>
    rw [drainFrom]
    by_cases hup : s.inbox.hungUp = true
    · have h : (s.withArrivals []).exhaust = { s.withArrivals [] with closed := true } := by
        simp [exhaust, withArrivals, hup]
      rw [h]
      exact ⟨[], .close rfl hup⟩
    · have h : (s.withArrivals []).exhaust = s.withArrivals [] := by
        simp [exhaust, withArrivals, hup]
      rw [h]
      exact ⟨[], .stop _⟩
  | cons arrival rest ih =>
    obtain ⟨time, a⟩ := arrival
    rw [drainFrom]
    split_ifs with hclosed hdue
    · exact ⟨[], .stop _⟩
    · obtain ⟨taken, htaken⟩ := ih (s.take a)
      exact ⟨_, htaken.cons hclosed hdue⟩
    · exact ⟨[], .stop _⟩

/-- Draining takes arrivals. -/
theorem takes_drain (now : Nat) (s : Stream) : ∃ taken, Takes now s taken (s.drain now) :=
  takes_drainFrom now s.inbox.arrivals s

/-- Looking at the stream takes an arrival at most, and tells whether the stream is open then. -/
theorem takes_pump {now : Nat} {s s' : Stream} {isOpen : Bool}
    (h : s.pump? now = some (isOpen, s')) : ∃ taken, Takes now s taken s' := by
  unfold pump? at h
  split at h
  · cases h
    exact ⟨[], .stop _⟩
  · rename_i hopen
    cases harrivals : s.inbox.arrivals with
    | nil =>
      simp only [harrivals] at h
      split at h
      · rename_i hup
        cases h
        exact ⟨[], .close harrivals hup⟩
      · cases h
    | cons arrival rest =>
      obtain ⟨time, a⟩ := arrival
      simp only [harrivals] at h
      split at h
      · rename_i hdue
        cases h
        exact ⟨[(time, a)], .take (by simpa using hopen) harrivals hdue (.stop _)⟩
      · cases h

/-- How the answer to asking for a line fits the stream before it, from which all has been taken
that was needed, and the stream after it: a line is the first one of the queue, which is empty
otherwise. -/
def Gives (s : Stream) : NextLine → Stream → Prop
  | .line text, s' => s.lines = text :: s'.lines ∧ s' = { s with lines := s'.lines }
  | .ended, s' => s' = s ∧ s.lines = [] ∧ s.closed = true
  | .pending, s' => s' = s ∧ s.lines = [] ∧ s.closed = false

/-- Giving an answer changes the queue at most. -/
theorem Gives.eq_withLines {line : NextLine} {s s' : Stream} (h : s.Gives line s') :
    s' = { s with lines := s'.lines } := by
  cases line with
  | line text => exact h.2
  | ended => rw [h.1]
  | pending => rw [h.1]

theorem takes_nextLineFrom (now : Nat) (arrivals : List (Nat × Arrival)) (s : Stream) :
    ∃ taken middle, Takes now (s.withArrivals arrivals) taken middle ∧
      middle.Gives (nextLineFrom now arrivals s).1 (nextLineFrom now arrivals s).2 := by
  induction arrivals generalizing s with
  | nil =>
    rw [nextLineFrom]
    cases hlines : s.lines with
    | cons line lines => exact ⟨[], _, .stop _, hlines, rfl⟩
    | nil =>
      simp only
      split_ifs with hclosed hup
      · exact ⟨[], _, .stop _, rfl, hlines, hclosed⟩
      · refine ⟨[], _, .close rfl hup, ?_, hlines, rfl⟩
        simp [withArrivals, hlines]
      · exact ⟨[], _, .stop _, rfl, hlines, Bool.eq_false_iff.2 hclosed⟩
  | cons arrival rest ih =>
    obtain ⟨time, a⟩ := arrival
    rw [nextLineFrom]
    cases hlines : s.lines with
    | cons line lines => exact ⟨[], _, .stop _, hlines, rfl⟩
    | nil =>
      simp only
      split_ifs with hclosed hdue
      · exact ⟨[], _, .stop _, rfl, hlines, hclosed⟩
      · obtain ⟨taken, middle, htaken, hgives⟩ := ih (s.take a)
        exact ⟨_, middle, htaken.cons hclosed hdue, hgives⟩
      · exact ⟨[], _, .stop _, rfl, hlines, Bool.eq_false_iff.2 hclosed⟩

/-- Asking for the next line takes arrivals, and then looks at the queue. -/
theorem takes_nextLine (now : Nat) (s : Stream) : ∃ taken middle, Takes now s taken middle ∧
    middle.Gives (s.nextLine now).1 (s.nextLine now).2 :=
  takes_nextLineFrom now s.inbox.arrivals s

/-- No wait ends before it starts. -/
theorem le_awaitFrom (wait : Wait) (deadline : Nat) (arrivals : List (Nat × Arrival)) (now : Nat)
    (s : Stream) : now ≤ (awaitFrom wait deadline arrivals now s).2.1 := by
  induction arrivals generalizing now s with
  | nil =>
    rw [awaitFrom]
    cases wait.resolve? s.lines with
    | some found => exact Nat.le_refl now
    | none =>
      simp only
      split_ifs with hclosed hup
      · exact Nat.le_refl now
      · exact Nat.le_refl now
      · exact Nat.le_max_left now deadline
  | cons arrival rest ih =>
    obtain ⟨time, a⟩ := arrival
    rw [awaitFrom]
    cases wait.resolve? s.lines with
    | some found => exact Nat.le_refl now
    | none =>
      simp only
      split_ifs with hclosed hdue
      · exact Nat.le_refl now
      · exact Nat.le_trans (Nat.le_max_left now time) (ih (max now time) (s.take a))
      · exact Nat.le_max_left now deadline

theorem takes_awaitFrom (wait : Wait) (deadline : Nat) (arrivals : List (Nat × Arrival))
    (now : Nat) (s : Stream) :
    ∃ taken, Takes (awaitFrom wait deadline arrivals now s).2.1 (s.withArrivals arrivals) taken
      (awaitFrom wait deadline arrivals now s).2.2 := by
  -- A wait looks at the queue, but takes nothing out of it: the only changes are arrivals.
  induction arrivals generalizing now s with
  | nil =>
    rw [awaitFrom]
    cases wait.resolve? s.lines with
    | some found => exact ⟨[], .stop _⟩
    | none =>
      simp only
      split_ifs with hclosed hup
      · exact ⟨[], .stop _⟩
      · exact ⟨[], .close rfl hup⟩
      · exact ⟨[], .stop _⟩
  | cons arrival rest ih =>
    obtain ⟨time, a⟩ := arrival
    rw [awaitFrom]
    cases wait.resolve? s.lines with
    | some found => exact ⟨[], .stop _⟩
    | none =>
      simp only
      split_ifs with hclosed hdue
      · exact ⟨[], .stop _⟩
      · obtain ⟨taken, htaken⟩ := ih (max now time) (s.take a)
        have htime := le_awaitFrom wait deadline rest (max now time) (s.take a)
        exact ⟨_, htaken.cons hclosed (Nat.le_trans (Nat.le_max_right now time) htime)⟩
      · exact ⟨[], .stop _⟩

/-- A wait takes arrivals, and then disarms the stream. -/
theorem takes_await (wait : Wait) (timeout now : Nat) (s : Stream) : ∃ taken middle,
    Takes (s.await wait timeout now).2.1 s taken middle ∧
      (s.await wait timeout now).2.2 = middle.disarm := by
  obtain ⟨taken, htaken⟩ := takes_awaitFrom wait (now + timeout) s.inbox.arrivals now s
  exact ⟨taken, _, htaken, rfl⟩

end Stream

end BringUp.Reply
