import BringUp.Link
import BringUp.Proofs.Reply.Moves

/-!
# The race between a reply, a close and the deadline

A wait that starts at a time `start` ends in one of three ways. The lines that arrive resolve it; or
the end of the connection comes first; or neither comes in time. In time is what is there without
any waiting, and what comes strictly before the deadline.

* `timedLines` and `closeTime?`: the lines that arrive before the end of the connection, and that
  end, each with its time.
* `Wait.answer?`: what resolves a wait among such lines, and when.
* `race`: who wins.
* `request_eq_race`: a request ends as the race says.
-/

namespace BringUp

namespace Reply

/-! ### What arrives, and when -/

/-- The lines whose ends arrive before the end of the connection, each with the time at which its
end is there. An arrival is there when it and all arrivals before it have come; nothing is there
before `now`. -/
def timedLines (pending : String) (now : Nat) : List (Nat × Arrival) → List (Nat × String)
  | [] | (_, .closed) :: _ => []
  | (time, .data bytes) :: rest =>
    let (lines, splitter) := ({ pending } : Splitter).push (Text.Utf8.text bytes)
    lines.map (max now time, ·) ++ timedLines splitter.pending (max now time) rest

/-- The time at which the end of the connection is there. A device that has hung up ends it behind
its last arrival. -/
def closeTime? (hungUp : Bool) (now : Nat) : List (Nat × Arrival) → Option Nat
  | [] => if hungUp then some now else none
  | (time, .closed) :: _ => some (max now time)
  | (time, .data _) :: rest => closeTime? hungUp (max now time) rest

/-- The text that arrives before the end of the connection. -/
def textBeforeClose : List (Nat × Arrival) → List Char
  | [] | (_, .closed) :: _ => []
  | (_, .data bytes) :: rest => Text.Utf8.decode bytes ++ textBeforeClose rest

/-- The timed lines are the lines of the whole text, wherever it is cut into chunks. -/
theorem map_snd_timedLines (cs : List Char) (now : Nat) (arrivals : List (Nat × Arrival)) :
    (timedLines (String.ofList (cutLines cs).2) now arrivals).map Prod.snd =
      (cutLines ((cutLines cs).2 ++ textBeforeClose arrivals)).1.map String.ofList := by
  induction arrivals generalizing cs now with
  | nil => simp [timedLines, textBeforeClose, cutLines_rest]
  | cons arrival rest ih =>
    obtain ⟨time, a⟩ := arrival
    cases a with
    | closed => simp [timedLines, textBeforeClose, cutLines_rest]
    | data bytes =>
      -- The chunk is put behind the unfinished line, and leaves one to the chunks after it.
      have hcut := cutLines_append ((cutLines cs).2 ++ Text.Utf8.decode bytes)
        (textBeforeClose rest)
      rw [List.append_assoc] at hcut
      simp only [timedLines, textBeforeClose, Splitter.push, Text.Utf8.text, String.toList_ofList,
        List.map_append, List.map_map, hcut]
      rw [ih]
      rfl

/-- No line is there before the present. -/
theorem le_of_mem_timedLines {pending : String} {now : Nat} {arrivals : List (Nat × Arrival)}
    {line : Nat × String} (h : line ∈ timedLines pending now arrivals) : now ≤ line.1 := by
  induction arrivals generalizing pending now with
  | nil => cases h
  | cons arrival rest ih =>
    obtain ⟨time, a⟩ := arrival
    cases a with
    | closed => cases h
    | data bytes =>
      rw [timedLines, List.mem_append, List.mem_map] at h
      rcases h with ⟨text, -, rfl⟩ | h
      · exact Nat.le_max_left now time
      · exact Nat.le_trans (Nat.le_max_left now time) (ih h)

/-- No line is there before the first arrival is. -/
theorem head_le_of_mem_timedLines {pending : String} {now time : Nat} {a : Arrival}
    {rest : List (Nat × Arrival)} {line : Nat × String}
    (h : line ∈ timedLines pending now ((time, a) :: rest)) : max now time ≤ line.1 := by
  cases a with
  | closed => cases h
  | data bytes =>
    rw [timedLines, List.mem_append, List.mem_map] at h
    rcases h with ⟨text, -, rfl⟩ | h
    · exact Nat.le_refl _
    · exact le_of_mem_timedLines h

/-- The end of the connection is not there before the present. -/
theorem le_of_closeTime? {hungUp : Bool} {now time : Nat} {arrivals : List (Nat × Arrival)}
    (h : closeTime? hungUp now arrivals = some time) : now ≤ time := by
  induction arrivals generalizing now with
  | nil =>
    rw [closeTime?] at h
    split at h
    · exact Nat.le_of_eq (Option.some.inj h)
    · cases h
  | cons arrival rest ih =>
    obtain ⟨at_, a⟩ := arrival
    cases a with
    | closed => exact Option.some.inj h ▸ Nat.le_max_left now at_
    | data bytes => exact Nat.le_trans (Nat.le_max_left now at_) (ih h)

/-- The end of the connection is not there before the first arrival is. -/
theorem head_le_of_closeTime? {hungUp : Bool} {now head time : Nat} {a : Arrival}
    {rest : List (Nat × Arrival)} (h : closeTime? hungUp now ((head, a) :: rest) = some time) :
    max now head ≤ time := by
  cases a with
  | closed => exact Nat.le_of_eq (Option.some.inj h)
  | data bytes => exact le_of_closeTime? h

/-! ### What resolves a wait -/

/-- What resolves a wait that starts at `start`, and when: for a count the lines up to that number,
when the last of them is there; for a pattern the first line that it matches. -/
def Wait.answer? (start : Nat) (lines : List (Nat × String)) : Wait → Option (Resolved × Nat)
  | .count 0 => some (.lines [], start)
  | .count (n + 1) =>
    lines[n]?.map fun last => (.lines ((lines.take (n + 1)).map Prod.snd), last.1)
  | .pattern p =>
    (lines.find? fun line => p.isMatch line.2).map fun line => (.matched line.2, line.1)

/-- Lines resolve a wait whenever they came. -/
theorem Wait.resolve?_map_snd (wait : Wait) (start : Nat) (lines : List (Nat × String)) :
    wait.resolve? (lines.map Prod.snd) = (wait.answer? start lines).map Prod.fst := by
  cases wait with
  | count n =>
    cases n with
    | zero => simp [resolve?, answer?]
    | succ n =>
      by_cases hn : n < lines.length
      · have hle : n + 1 ≤ lines.length := hn
        simp [resolve?, answer?, hn, hle, List.map_take]
      · have hle : ¬ n + 1 ≤ lines.length := hn
        simp [resolve?, answer?, hn, hle]
  | pattern p =>
    rw [resolve?, answer?, List.find?_map, Option.map_map, Option.map_map]
    rfl

/-- What has resolved a wait is not changed by later lines. -/
theorem Wait.answer?_append_of_some {wait : Wait} {start : Nat} {seen : List (Nat × String)}
    {answer : Resolved × Nat} (h : wait.answer? start seen = some answer)
    (more : List (Nat × String)) : wait.answer? start (seen ++ more) = some answer := by
  cases wait with
  | count n =>
    cases n with
    | zero => exact h
    | succ n =>
      rw [answer?, Option.map_eq_some_iff] at h ⊢
      obtain ⟨last, hlast, rfl⟩ := h
      have hn : n < seen.length := (List.getElem?_eq_some_iff.1 hlast).1
      refine ⟨last, ?_, ?_⟩
      · rw [List.getElem?_append_left hn, hlast]
      · rw [List.take_append_of_le_length hn]
  | pattern p =>
    rw [answer?, Option.map_eq_some_iff] at h ⊢
    obtain ⟨line, hline, rfl⟩ := h
    exact ⟨line, by rw [List.find?_append, hline, Option.some_or], rfl⟩

/-- A wait is resolved when one of its lines is there. -/
theorem Wait.mem_of_answer?_append {wait : Wait} {start time : Nat} {found : Resolved}
    {seen more : List (Nat × String)} (hnone : wait.answer? start seen = none)
    (h : wait.answer? start (seen ++ more) = some (found, time)) : ∃ line, (time, line) ∈ more := by
  cases wait with
  | count n =>
    cases n with
    | zero => cases hnone
    | succ n =>
      rw [answer?, Option.map_eq_none_iff, List.getElem?_eq_none_iff] at hnone
      rw [answer?, List.getElem?_append_right hnone, Option.map_eq_some_iff] at h
      obtain ⟨⟨at_, line⟩, hlast, heq⟩ := h
      cases heq
      exact ⟨line, List.mem_of_getElem? hlast⟩
  | pattern p =>
    rw [answer?, Option.map_eq_none_iff] at hnone
    rw [answer?, List.find?_append, hnone, Option.none_or, Option.map_eq_some_iff] at h
    obtain ⟨⟨at_, line⟩, hline, heq⟩ := h
    cases heq
    exact ⟨line, List.mem_of_find?_eq_some hline⟩

/-- A wait that no line is needed for is resolved when it starts. -/
theorem Wait.eq_of_answer?_nil {wait : Wait} {start time : Nat} {found : Resolved}
    (h : wait.answer? start [] = some (found, time)) : time = start := by
  cases wait with
  | count n =>
    cases n with
    | zero => exact (Prod.mk.inj (Option.some.inj h)).2.symm
    | succ n => cases h
  | pattern p => cases h

/-! ### Who wins -/

/-- What a wait can still see: what is there without waiting, and what comes before the deadline. -/
def InTime (start timeout time : Nat) : Prop := time ≤ start ∨ time < start + timeout

instance (start timeout time : Nat) : Decidable (InTime start timeout time) :=
  inferInstanceAs (Decidable (_ ∨ _))

/-- What is later than something too late is too late. -/
theorem InTime.mono {start timeout time later : Nat} (h : InTime start timeout later)
    (hle : time ≤ later) : InTime start timeout time :=
  h.imp (Nat.le_trans hle) (Nat.lt_of_le_of_lt hle)

/-- At a time at which something can still be seen, the deadline is not over. -/
theorem InTime.max_eq {start timeout time : Nat} (h : InTime start timeout time) :
    max time (start + timeout) = start + timeout := by
  rcases h with h | h <;> omega

/-- How a wait ends, and when: with its answer if that is in time, else with the end of the
connection if that is in time, else at the deadline. -/
def race (start timeout : Nat) (answer : Option (Resolved × Nat)) (close : Option Nat) :
    Outcome × Nat :=
  match answer.filter fun found => InTime start timeout found.2,
    close.filter fun time => InTime start timeout time with
  | some (found, time), _ => (.resolved found, time)
  | none, some time => (.closed, time)
  | none, none => (.timeout, start + timeout)

/-- A wait that cannot be resolved before a time which is too late ends without its answer. -/
theorem race_of_late {start timeout late : Nat} {answer : Option (Resolved × Nat)}
    {close : Option Nat} (hlate : ¬ InTime start timeout late)
    (hanswer : ∀ found time, answer = some (found, time) → late ≤ time)
    (hclose : ∀ time, close = some time → late ≤ time) :
    race start timeout answer close = (.timeout, start + timeout) := by
  have hnoAnswer : (answer.filter fun found => InTime start timeout found.2) = none := by
    rw [Option.filter_eq_none_iff]
    rintro ⟨found, time⟩ h hin
    exact hlate ((of_decide_eq_true hin).mono (hanswer found time h))
  have hnoClose : (close.filter fun time => InTime start timeout time) = none := by
    rw [Option.filter_eq_none_iff]
    intro time h hin
    exact hlate ((of_decide_eq_true hin).mono (hclose time h))
  rw [race, hnoAnswer, hnoClose]

/-- An answer that is in time wins. -/
theorem race_of_answer {start timeout time : Nat} {found : Resolved} (close : Option Nat)
    (htime : InTime start timeout time) :
    race start timeout (some (found, time)) close = (.resolved found, time) := by
  have hanswer : (some (found, time)).filter (fun found => InTime start timeout found.2) =
      some (found, time) := Option.filter_some_pos (decide_eq_true htime)
  rw [race, hanswer]

/-- Without an answer, an end that is in time wins. -/
theorem race_of_close {start timeout time : Nat} (htime : InTime start timeout time) :
    race start timeout none (some time) = (.closed, time) := by
  have hclose : (some time).filter (fun time => InTime start timeout time) = some time :=
    Option.filter_some_pos (decide_eq_true htime)
  rw [race, Option.filter_none, hclose]

/-- Without either, the deadline comes. -/
theorem race_of_neither {start timeout : Nat} :
    race start timeout none none = (.timeout, start + timeout) := rfl

/-! ### A wait is a race -/

namespace Stream

/-- The lines that a stream will queue, if it is armed and stays so, and when. -/
def coming (now : Nat) (s : Stream) : List (Nat × String) :=
  if s.closed then [] else timedLines s.splitter.pending now s.inbox.arrivals

/-- When the end of the stream is there. -/
def ending? (now : Nat) (s : Stream) : Option Nat :=
  if s.closed then some now else closeTime? s.inbox.hungUp now s.inbox.arrivals

/-- A wait that the queued lines resolve is over at once. -/
theorem awaitFrom_of_resolved {wait : Wait} {deadline now : Nat} {s : Stream} {found : Resolved}
    (h : wait.resolve? s.lines = some found) (arrivals : List (Nat × Arrival)) :
    awaitFrom wait deadline arrivals now s = (.resolved found, now, s.withArrivals arrivals) := by
  cases arrivals with
  | nil => simp [awaitFrom, h]
  | cons arrival rest => obtain ⟨time, a⟩ := arrival; simp [awaitFrom, h]

/-- A wait on a closed stream, which the queued lines do not resolve, is over at once, too. -/
theorem awaitFrom_of_closed {wait : Wait} {deadline now : Nat} {s : Stream}
    (h : wait.resolve? s.lines = none) (hclosed : s.closed = true)
    (arrivals : List (Nat × Arrival)) :
    awaitFrom wait deadline arrivals now s = (.closed, now, s.withArrivals arrivals) := by
  cases arrivals with
  | nil => simp [awaitFrom, h, hclosed]
  | cons arrival rest => obtain ⟨time, a⟩ := arrival; simp [awaitFrom, h, hclosed]

/-- How a wait ended, and when. -/
def ended : Outcome × Nat × Stream → Outcome × Nat
  | (outcome, time, _) => (outcome, time)

/-- What the queued lines resolve, no later line changes. -/
theorem awaitFrom_eq_race_of_answer {wait : Wait} {start timeout now : Nat} {found : Resolved}
    {seen : List (Nat × String)} {s : Stream} (hlines : s.lines = seen.map Prod.snd)
    (hnow : InTime start timeout now) (hanswer : wait.answer? start seen = some (found, now))
    (arrivals : List (Nat × Arrival)) (more : List (Nat × String)) (close : Option Nat) :
    ended (awaitFrom wait (start + timeout) arrivals now s) =
      race start timeout (wait.answer? start (seen ++ more)) close := by
  have hresolve : wait.resolve? s.lines = some found := by
    rw [hlines, wait.resolve?_map_snd start, hanswer, Option.map_some]
  rw [Wait.answer?_append_of_some hanswer, race_of_answer _ hnow, awaitFrom_of_resolved hresolve]
  rfl

/-- A wait ends as the race says. The lines that were queued before, `seen`, have resolved nothing
unless the last of them resolves the wait now. -/
theorem awaitFrom_eq_race {wait : Wait} {start timeout now : Nat}
    {arrivals : List (Nat × Arrival)} {seen : List (Nat × String)} {s : Stream}
    (harmed : s.armed = true) (hopen : s.closed = false) (hlines : s.lines = seen.map Prod.snd)
    (hstart : start ≤ now) (hnow : InTime start timeout now)
    (hseen : ∀ found time, wait.answer? start seen = some (found, time) → time = now) :
    ended (awaitFrom wait (start + timeout) arrivals now s) =
      race start timeout
        (wait.answer? start (seen ++ timedLines s.splitter.pending now arrivals))
        (closeTime? s.inbox.hungUp now arrivals) := by
  induction arrivals generalizing now seen s with
  | nil =>
    cases hanswer : wait.answer? start seen with
    | some answer =>
      obtain ⟨found, time⟩ := answer
      obtain rfl := hseen found time hanswer
      exact awaitFrom_eq_race_of_answer hlines hnow hanswer [] _ _
    | none =>
      have hnone : wait.resolve? s.lines = none := by
        rw [hlines, wait.resolve?_map_snd start, hanswer, Option.map_none]
      -- Nothing more arrives: the stream ends at once, or only the deadline is left.
      rw [timedLines, List.append_nil, hanswer, closeTime?]
      by_cases hup : s.inbox.hungUp = true
      · rw [if_pos hup, race_of_close hnow]
        simp [awaitFrom, ended, hnone, hopen, hup]
      · rw [if_neg hup, race_of_neither]
        simp [awaitFrom, ended, hnone, hopen, hup, hnow.max_eq]
  | cons arrival rest ih =>
    obtain ⟨time, a⟩ := arrival
    cases hanswer : wait.answer? start seen with
    | some answer =>
      obtain ⟨found, time'⟩ := answer
      obtain rfl := hseen found time' hanswer
      exact awaitFrom_eq_race_of_answer hlines hnow hanswer _ _ _
    | none =>
      have hnone : wait.resolve? s.lines = none := by
        rw [hlines, wait.resolve?_map_snd start, hanswer, Option.map_none]
      have hdue : InTime start timeout (max now time) ↔ time ≤ now ∨ time < start + timeout := by
        unfold InTime at hnow ⊢
        omega
      by_cases hin : time ≤ now ∨ time < start + timeout
      · -- The next arrival is taken; it ends the stream or adds its lines.
        have hstep : awaitFrom wait (start + timeout) ((time, a) :: rest) now s =
            awaitFrom wait (start + timeout) rest (max now time) (s.take a) := by
          rw [awaitFrom]
          simp [hnone, hopen, hin]
        rw [hstep]
        cases a with
        | closed =>
          rw [awaitFrom_of_closed (s := s.take .closed) hnone rfl, timedLines, List.append_nil,
            hanswer, closeTime?, race_of_close (hdue.2 hin)]
          rfl
        | data bytes =>
          have hmore := @ih (max now time)
            (seen ++ (s.splitter.push (Text.Utf8.text bytes)).1.map (max now time, ·))
            (s.take (.data bytes)) harmed hopen (by simp [take, harmed, hlines, Function.comp_def])
            (Nat.le_trans hstart (Nat.le_max_left now time)) (hdue.2 hin) ?_
          · rw [hmore, List.append_assoc]
            rfl
          · intro found time' hfound
            obtain ⟨line, hline⟩ := Wait.mem_of_answer?_append hanswer hfound
            obtain ⟨text, -, heq⟩ := List.mem_map.1 hline
            exact (Prod.mk.inj heq).1.symm
      · -- Nothing more comes in time, because all that is to come is behind this arrival.
        have hstep : awaitFrom wait (start + timeout) ((time, a) :: rest) now s =
            (.timeout, start + timeout, s.withArrivals ((time, a) :: rest)) := by
          rw [awaitFrom]
          simp [hnone, hopen, hin, hnow.max_eq]
        rw [hstep, race_of_late (mt hdue.1 hin)]
        · rfl
        · intro found time' hfound
          obtain ⟨line, hline⟩ := Wait.mem_of_answer?_append hanswer hfound
          exact head_le_of_mem_timedLines hline
        · exact fun time' hclose => head_le_of_closeTime? hclose

/-- A wait on an armed stream with an empty queue ends as the race between what is to come says. -/
theorem await_eq_race {wait : Wait} {timeout now : Nat} {s : Stream} (harmed : s.armed = true)
    (hlines : s.lines = []) :
    ended (s.await wait timeout now) =
      race now timeout (wait.answer? now (s.coming now)) (s.ending? now) := by
  have hended : ended (s.await wait timeout now) =
      ended (awaitFrom wait (now + timeout) s.inbox.arrivals now s) := rfl
  have hpresent : InTime now timeout now := .inl (Nat.le_refl now)
  have hqueue : s.lines = ([] : List (Nat × String)).map Prod.snd := hlines
  have hseen : ∀ found time, wait.answer? now [] = some (found, time) → time = now :=
    fun _ _ h => Wait.eq_of_answer?_nil h
  rw [hended, coming, ending?]
  cases hclosed : s.closed with
  | false =>
    exact awaitFrom_eq_race harmed hclosed hqueue (Nat.le_refl now) hpresent hseen
  | true =>
    -- A closed stream still resolves a wait for no lines at all.
    cases hanswer : wait.answer? now [] with
    | some answer =>
      obtain ⟨found, time⟩ := answer
      obtain rfl := hseen found time hanswer
      exact awaitFrom_eq_race_of_answer hqueue hpresent hanswer _ [] _
    | none =>
      have hnone : wait.resolve? s.lines = none := by
        rw [hlines, ← List.map_nil, wait.resolve?_map_snd now, hanswer, Option.map_none]
      rw [awaitFrom_of_closed hnone hclosed]
      simp only [if_true, hanswer]
      rw [race_of_close hpresent]
      rfl

/-- Nothing is taken into a closed stream. -/
theorem drainFrom_of_closed {now : Nat} {s : Stream} (hclosed : s.closed = true)
    (arrivals : List (Nat × Arrival)) : drainFrom now arrivals s = s.withArrivals arrivals := by
  cases arrivals with
  | nil =>
    obtain ⟨inbox, splitter, lines, transcript, armed, closed⟩ := s
    obtain rfl : closed = true := hclosed
    rfl
  | cons arrival rest =>
    obtain ⟨time, a⟩ := arrival
    rw [drainFrom, if_pos hclosed]

theorem coming_drainFrom {now : Nat} {arrivals : List (Nat × Arrival)} {s : Stream}
    (hopen : s.closed = false) : (drainFrom now arrivals s).coming now =
      (timedLines s.splitter.pending now arrivals).filter fun line => now < line.1 := by
  induction arrivals generalizing s with
  | nil => simp [drainFrom, exhaust, coming, withArrivals, timedLines]
  | cons arrival rest ih =>
    obtain ⟨time, a⟩ := arrival
    by_cases hdue : time ≤ now
    · rw [drainFrom, if_neg (by simp [hopen]), if_pos hdue]
      cases a with
      | closed =>
        rw [drainFrom_of_closed (s := s.take .closed) rfl]
        rfl
      | data bytes =>
        rw [ih (s := s.take (.data bytes)) hopen]
        simp [timedLines, take, Nat.max_eq_left hdue, List.filter_map]
    · -- All that is left is behind this arrival, and so later than `now`.
      have hlate : ∀ line ∈ timedLines s.splitter.pending now ((time, a) :: rest), now < line.1 :=
        fun line hline => Nat.lt_of_lt_of_le (by omega) (head_le_of_mem_timedLines hline)
      rw [drainFrom, if_neg (by simp [hopen]), if_neg hdue,
        List.filter_eq_self.2 fun line hline => decide_eq_true (hlate line hline)]
      simp [coming, withArrivals, hopen]

/-- Arming hides the lines that are there already, and no others. -/
theorem coming_arm (now : Nat) (s : Stream) :
    (s.arm now).coming now = (s.coming now).filter fun line => now < line.1 := by
  have harm : (s.arm now).coming now = (s.drain now).coming now := rfl
  rw [harm, drain]
  cases hclosed : s.closed with
  | false => rw [coming_drainFrom hclosed, coming, hclosed, if_neg Bool.false_ne_true]
  | true =>
    have hnone : s.coming now = [] := if_pos hclosed
    rw [drainFrom_of_closed hclosed, withArrivals_self, hnone, List.filter_nil]

theorem ending?_drainFrom {now : Nat} {arrivals : List (Nat × Arrival)} {s : Stream}
    (hopen : s.closed = false) :
    (drainFrom now arrivals s).ending? now = closeTime? s.inbox.hungUp now arrivals := by
  induction arrivals generalizing s with
  | nil => cases hup : s.inbox.hungUp <;>
      simp [drainFrom, exhaust, ending?, withArrivals, closeTime?, hopen, hup]
  | cons arrival rest ih =>
    obtain ⟨time, a⟩ := arrival
    by_cases hdue : time ≤ now
    · rw [drainFrom, if_neg (by simp [hopen]), if_pos hdue]
      cases a with
      | closed =>
        rw [drainFrom_of_closed (s := s.take .closed) rfl, closeTime?, Nat.max_eq_left hdue]
        rfl
      | data bytes =>
        rw [ih (s := s.take (.data bytes)) hopen, closeTime?, Nat.max_eq_left hdue]
        rfl
    · rw [drainFrom, if_neg (by simp [hopen]), if_neg hdue]
      simp [ending?, withArrivals, hopen]

/-- Arming does not change when the end of the stream is there. -/
theorem ending?_arm (now : Nat) (s : Stream) : (s.arm now).ending? now = s.ending? now := by
  have harm : (s.arm now).ending? now = (s.drain now).ending? now := rfl
  rw [harm, drain]
  cases hclosed : s.closed with
  | false => rw [ending?_drainFrom hclosed, ending?, hclosed, if_neg Bool.false_ne_true]
  | true => rw [drainFrom_of_closed hclosed, withArrivals_self]

end Stream

/-- What a request makes of how its wait ended. -/
def Outcome.result (command : String) (timeout : Nat) : Outcome → Except StepError Resolved
  | .resolved found => .ok found
  | .closed => .error .transportClosed
  | .timeout => .error (.timeout command timeout)

end Reply

namespace Link

open Reply

/-- The stream of a request that waits: it is armed before the command is written, so what the
device sends then is still to come. -/
def listening (now : Nat) (emissions : List Emission) (l : Link) : Reply.Stream :=
  (({ l with replies := l.replies.arm now } : Link).emit now emissions).replies

/-- Posting does not hang up. -/
theorem hungUp_posts (now : Nat) (emissions : List Emission) (inbox : Inbox) :
    (emissions.foldl (fun inbox e => inbox.post now e.delay e.arrival) inbox).hungUp =
      inbox.hungUp := by
  induction emissions generalizing inbox with
  | nil => rfl
  | cons e emissions ih =>
    rw [List.foldl_cons, ih, Inbox.post]
    split <;> rfl

/-- What is posted into an open inbox is to come, with what was to come before. -/
theorem mem_posts {now : Nat} {emissions : List Emission} {inbox : Inbox}
    (hup : inbox.hungUp = false) {arrival : Nat × Arrival} :
    arrival ∈ (emissions.foldl (fun inbox e => inbox.post now e.delay e.arrival) inbox).arrivals ↔
      arrival ∈ inbox.arrivals ∨ ∃ e ∈ emissions, arrival = (now + e.delay, e.arrival) := by
  induction emissions generalizing inbox with
  | nil => simp
  | cons e emissions ih =>
    have hpost : inbox.post now e.delay e.arrival =
        { inbox with arrivals := schedule (now + e.delay) e.arrival inbox.arrivals } := by
      rw [Inbox.post, hup, if_neg Bool.false_ne_true]
    have hrest := @ih (inbox.post now e.delay e.arrival) (by rw [hpost, hup])
    rw [List.foldl_cons, hrest, hpost, mem_schedule]
    simp only [List.mem_cons, exists_eq_or_imp]
    rw [or_assoc, or_left_comm]

/-- What the device sends when the command is written is among what is still to come, unless it
hung up before. -/
theorem mem_listening {now : Nat} {emissions : List Emission} {l : Link}
    (hup : (l.listening now emissions).inbox.hungUp = false) {e : Emission}
    (he : e ∈ emissions) :
    (now + e.delay, e.arrival) ∈ (l.listening now emissions).inbox.arrivals := by
  rw [listening, emit_eq] at hup ⊢
  rw [hungUp_posts] at hup
  exact (mem_posts hup).2 (.inr ⟨e, he, rfl⟩)

/-- The lines that are still to come while a request waits are those of the text that comes before
the end of the connection. An unfinished line is a part of the first one. -/
theorem map_snd_coming_listening {now : Nat} {emissions : List Emission} {l : Link}
    (hpending : l.replies.splitter.pending = unfinished l.replies.transcript)
    (hopen : (l.listening now emissions).closed = false) :
    ((l.listening now emissions).coming now).map Prod.snd =
      (cutLines ((unfinished (l.replies.arm now).transcript).toList ++
        textBeforeClose (l.listening now emissions).inbox.arrivals)).1.map String.ofList := by
  have harm := (l.replies.changes_arm now).keep (fun h => h.pending_eq) hpending
  have hsplitter : (l.listening now emissions).splitter = (l.replies.arm now).splitter := by
    rw [listening, emit_eq]
  rw [Stream.coming, hopen, if_neg Bool.false_ne_true, hsplitter, harm, unfinished,
    map_snd_timedLines, String.toList_ofList]

/-- A request whose command is written waits on the listening stream. -/
theorem request_of_respond {command : String} {t : Trace} {l : Link} {emissions : List Emission}
    (hrespond : l.device.respond t (octets command) = .ok emissions) (wait : Wait) (timeout : Nat) :
    l.request command wait timeout t =
      let (outcome, time, replies) := (l.listening t.now emissions).await wait timeout t.now
      (outcome.result command timeout, (t.record (.wrote (octets command))).waitUntil time,
        { l with replies }) := by
  simp only [request, send, hrespond, listening, emit_eq, Trace.now_record]
  rfl

/-- The wait of a request whose command is written ends as the race does. -/
theorem ended_listening (wait : Wait) (timeout now : Nat) (emissions : List Emission) (l : Link) :
    Stream.ended ((l.listening now emissions).await wait timeout now) =
      race now timeout (wait.answer? now ((l.listening now emissions).coming now))
        ((l.listening now emissions).ending? now) :=
  Stream.await_eq_race (by rw [listening, emit_eq]; rfl) (by rw [listening, emit_eq]; rfl)

/-- No time is taken back while a request waits. -/
theorem le_ended_listening (wait : Wait) (timeout now : Nat) (emissions : List Emission)
    (l : Link) :
    now ≤ (Stream.ended ((l.listening now emissions).await wait timeout now)).2 :=
  Stream.le_awaitFrom wait (now + timeout) _ now _

/-- A request ends as the race between the reply, the end of the connection and the deadline says,
unless the command cannot be written. The lines in the race are those whose ends come after `t.now`,
and those that the device sends when the command is written. -/
theorem request_eq_race (command : String) (wait : Wait) (timeout : Nat) (t : Trace) (l : Link) :
    (match l.device.respond t (octets command) with
      | .error failure =>
        l.request command wait timeout t =
          (.error (.transport failure), t, { l with replies := (l.replies.arm t.now).disarm })
      | .ok emissions =>
        let replies := l.listening t.now emissions
        let (outcome, time) :=
          race t.now timeout (wait.answer? t.now (replies.coming t.now)) (replies.ending? t.now)
        (l.request command wait timeout t).1 = outcome.result command timeout ∧
          (l.request command wait timeout t).2.1 =
            (t.record (.wrote (octets command))).waitUntil time ∧
          (l.request command wait timeout t).2.1.now = time ∧
          (replies.inbox.hungUp = false → ∀ e ∈ emissions,
            (t.now + e.delay, e.arrival) ∈ replies.inbox.arrivals) ∧
          (l.replies.splitter.pending = unfinished l.replies.transcript →
            replies.closed = false →
            (replies.coming t.now).map Prod.snd =
              (cutLines ((unfinished (l.replies.arm t.now).transcript).toList ++
                textBeforeClose replies.inbox.arrivals)).1.map String.ofList)) ∧
      (l.replies.arm t.now).coming t.now =
        ((l.replies.coming t.now).filter fun line => t.now < line.1) ∧
      (l.replies.arm t.now).ending? t.now = l.replies.ending? t.now := by
  refine ⟨?_, Stream.coming_arm _ _, Stream.ending?_arm _ _⟩
  cases hrespond : l.device.respond t (octets command) with
  | error failure => simp [request, send, hrespond]
  | ok emissions =>
    simp only [← ended_listening]
    rw [request_of_respond hrespond]
    exact ⟨rfl, rfl, Nat.max_eq_right (l.le_ended_listening wait timeout t.now emissions),
      fun hup e he => mem_listening hup he, map_snd_coming_listening⟩

end Link

end BringUp
