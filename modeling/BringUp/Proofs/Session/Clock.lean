import BringUp.Proofs.Session.Provenance

/-!
# What happens between two ticks

In a run time passes only up to what is due next, and a session is woken only by what is due. So a
tick comes neither before nor after the time for which the clock is armed: whatever else happens,
and however much of it, the clock stays armed for the same time, and this time is not passed before
the tick.

* `Stage.AllInTime`: things happen as they do in a run, with ties in any order.
* `Stage.allInTime_turn`: the turns of a run are among them.
* `Stage.Meanwhile`: things happen in time, and the connection is not closed.
* `Stage.Armed`: the clock is armed for a time that is not over.
* `Stage.Armed.happen`: what happens before the tick.
* `Stage.ticksAt_of_armed`: all that happens before the tick.
-/

namespace BringUp

namespace Happening

/-- A tick of the clock. -/
def IsTick : Happening → Prop
  | .wake .tick => True
  | _ => False

/-- Whether the session is woken. -/
def isWake : Happening → Bool
  | .wake _ => true
  | _ => false

/-- Whether the device sends something by itself. -/
def isSend : Happening → Bool
  | .send _ _ => true
  | _ => false

end Happening

namespace Reply

/-- Something that is sent is one more arrival. -/
theorem length_schedule (due : Nat) (a : Arrival) (arrivals : List (Nat × Arrival)) :
    (schedule due a arrivals).length = arrivals.length + 1 := by
  induction arrivals with
  | nil => rfl
  | cons arrival arrivals ih =>
    rw [schedule]
    split
    · simp [ih]
    · rfl

/-- What the device sends is one more arrival at most. -/
theorem Inbox.length_post (now delay : Nat) (a : Arrival) (i : Inbox) :
    (i.post now delay a).arrivals.length ≤ i.arrivals.length + 1 := by
  rw [post]
  split
  · exact Nat.le_succ _
  · exact (length_schedule _ _ _).le

end Reply

namespace Reply.Stream

/-- Looking at a stream that stays open takes one arrival. -/
theorem length_pump {now : Nat} {s s' : Stream} (h : s.pump? now = some (true, s')) :
    s'.inbox.arrivals.length + 1 = s.inbox.arrivals.length := by
  unfold pump? at h
  split at h
  · cases h
  · split at h
    · split at h <;> cases h
    · next time a rest harrivals =>
      split at h
      · obtain ⟨-, rfl⟩ := Prod.mk.inj (Option.some.inj h)
        rw [inbox_take, harrivals]
        rfl
      · cases h

/-- What is due can be taken. -/
theorem pump?_ne_none_of_due {now time : Nat} {s : Stream} (h : s.due now = some time)
    (htime : time ≤ now) : s.pump? now ≠ none := by
  unfold due Inbox.due at h
  unfold pump?
  cases hclosed : s.closed with
  | true => simp
  | false => cases harrivals : s.inbox.arrivals <;> simp_all

/-- What is due at some time can be taken from then on. -/
theorem exists_due {now time later : Nat} {s : Stream} (h : s.due now = some time)
    (htime : time ≤ later) : ∃ time', s.due later = some time' ∧ time' ≤ later := by
  unfold due Inbox.due at h ⊢
  cases hclosed : s.closed with
  | true => exact ⟨later, rfl, Nat.le_refl _⟩
  | false => cases harrivals : s.inbox.arrivals <;> simp_all

end Reply.Stream

namespace Session

variable {setup : Setup} {s : Session} {w : World} {time : Nat}

/-- While the clock is armed, a line of the operator ends a pause and does nothing else. -/
theorem handle_line_of_armed (hs : s.Coherent) (htick : s.nextTick = some time) (setup : Setup)
    (text : String) (w : World) :
    handle setup (.input text) w s =
      ({ s with state := if s.state = .awaitContinue then .running else s.state }, w) := by
  have hstay (hreact : s.state.react (.input text) = none) :
      handle setup (.input text) w s = (s, w) := by
    rw [handle, dispatch, hreact]
  cases hstate : s.state with
  | idle => exact absurd hstate hs.started.1
  | init => exact absurd hstate hs.started.2
  -- Before the sequence is started, the clock is not armed.
  | awaitTransportSelect => simp [(hs.selecting hstate).2.2.1] at htick
  | awaitStart => simp [(hs.opened hstate).2.2.1] at htick
  | awaitContinue =>
    rw [handle, dispatch_continue hs hstate]
    rfl
  | running =>
    rw [hstay (by rw [hstate]; rfl), if_neg (by decide), ← hstate]
  | complete =>
    rw [hstay (by rw [hstate]; rfl), if_neg (by decide), ← hstate]

/-- A session that looks at its link takes an arrival, unless it finds the connection closed. -/
theorem attend_of_due {link : Link} (hs : s.Coherent) (hlink : s.link = some link)
    (hdue : link.replies.due w.now = some time) (htime : time ≤ w.now) (setup : Setup)
    (hopen : ∃ new, (attend setup w s).2.trace.effects = w.trace.effects ++ new ∧ .closed ∉ new) :
    ∃ replies, attend setup w s = ({ s with link := some { link with replies } }, w) ∧
      replies.inbox.arrivals.length + 1 = link.replies.inbox.arrivals.length := by
  rcases hpump : link.replies.pump? w.now with _ | ⟨_ | _, replies⟩
  · exact absurd hpump (Reply.Stream.pump?_ne_none_of_due hdue htime)
  · -- A connection that is found closed is closed on this side, too.
    rw [attend_of_closed hs.started.2 hlink hpump] at hopen
    obtain ⟨new, hnew, hclosed⟩ := hopen
    obtain ⟨lines, hlines⟩ := effects_listPorts_lost setup w
    rw [hlines, List.append_cancel_left_eq] at hnew
    exact absurd (hnew ▸ closed_mem_restarting lines) hclosed
  · refine ⟨replies, ?_, Reply.Stream.length_pump hpump⟩
    rw [attend, hlink]
    simp only [hpump]

end Session

namespace Stage

/-- Something is due at a time. -/
inductive Due (s : Stage) : Nat → Occurrence → Prop where
  /-- A line of the operator. -/
  | line {time : Nat} {text : String} {rest : List (Nat × String)} :
      s.operator.present → s.operator.lines = (time, text) :: rest →
      Due s (max s.world.now time) (.line text)
  /-- The operator has typed all lines and leaves. -/
  | leaves : s.operator.present → s.operator.lines = [] →
      Due s (max s.world.now s.operator.leavesAt) .operatorLeaves
  /-- A tick of the clock. -/
  | tick {time : Nat} : s.session.nextTick = some time → Due s (max s.world.now time) .tick
  /-- An arrival from the device, or the end of its connection. -/
  | arrival {link : Link} {time : Nat} : s.session.link = some link →
      link.replies.due s.world.now = some time → Due s (max s.world.now time) .arrival

/-- Something happens in time: time passes only up to what is due next, and the session is woken,
unless the run is over, by something that is due at the present time. Around the session anything
may happen at any time. -/
def InTime (s : Stage) : Happening → Prop
  | .wait time => ∀ t o, s.Due t o → time ≤ t
  | .wake o => s.ending? = none ∧ s.Due s.world.now o
  | .send _ _ | .hangUp | .change _ => True

/-- Things happen in time, one after the other. -/
def AllInTime (setup : Setup) (s : Stage) : List Happening → Prop
  | [] => True
  | h :: later => s.InTime h ∧ (s.happen setup h).AllInTime setup later

/-- Things happen in time that do not close the connection. -/
structure Meanwhile (setup : Setup) (s : Stage) (later : List Happening) : Prop where
  /-- They happen in time. -/
  inTime : s.AllInTime setup later
  /-- The connection is not closed. -/
  keeps : ∃ new, (s.play setup later).world.trace.effects = s.world.trace.effects ++ new ∧
    .closed ∉ new

/-- What may still wake a session before a tick: the operator, and what the device has sent. -/
def backlog (s : Stage) : Nat :=
  s.operator.lines.length + (if s.operator.present then 1 else 0) +
    s.session.link.elim 0 (·.replies.inbox.arrivals.length)

/-- The clock is armed for a time that is not over. -/
structure Armed (time : Nat) (s : Stage) : Prop where
  /-- The session goes on. -/
  outcome : s.session.outcome = none
  /-- The session is coherent. -/
  coherent : s.session.Coherent
  /-- This is the time of the next tick. -/
  nextTick : s.session.nextTick = some time
  /-- The time is not over. -/
  now_le : s.world.now ≤ time

variable {setup : Setup} {s : Stage} {time t : Nat} {o : Occurrence} {h : Happening}
  {later : List Happening}

/-! ### The turns of a run -/

/-- Nothing is due but what the operator, the clock and the device have in store. -/
theorem due_iff : s.Due t o ↔
    s.operatorDue = some (t, o) ∨ s.tickDue = some (t, o) ∨ s.arrivalDue = some (t, o) := by
  constructor
  · intro hdue
    cases hdue with
    | line hpresent hlines => simp [operatorDue, hpresent, hlines]
    | leaves hpresent hlines => simp [operatorDue, hpresent, hlines]
    | tick htick => simp [tickDue, htick]
    | arrival hlink hdue => simp [arrivalDue, hlink, hdue]
  · rintro (hoperator | htick | harrival)
    · unfold operatorDue at hoperator
      split at hoperator
      · next hpresent =>
        split at hoperator
        · next hlines =>
          cases hoperator
          exact .line hpresent hlines
        · next hlines =>
          cases hoperator
          exact .leaves hpresent hlines
      · cases hoperator
    · obtain ⟨next, hsome, heq⟩ := Option.map_eq_some_iff.1 htick
      cases heq
      exact .tick hsome
    · obtain ⟨link, hlink, harrival⟩ := Option.bind_eq_some_iff.1 harrival
      obtain ⟨time, hdue, heq⟩ := Option.map_eq_some_iff.1 harrival
      cases heq
      exact .arrival hlink hdue

/-- If there is one of two things, the earlier of them is no later. -/
theorem exists_earlier {α : Type} {a b : Option (Nat × α)} {y : Nat × α}
    (hy : a = some y ∨ b = some y) : ∃ x, earlier a b = some x ∧ x.1 ≤ y.1 := by
  obtain _ | ⟨t, a⟩ := a <;> obtain _ | ⟨u, b⟩ := b
  · simp at hy
  · obtain rfl : (u, b) = y := by simpa using hy
    exact ⟨_, rfl, Nat.le_refl _⟩
  · obtain rfl : (t, a) = y := by simpa using hy
    exact ⟨_, rfl, Nat.le_refl _⟩
  · by_cases hle : t ≤ u
    · refine ⟨(t, a), if_pos hle, ?_⟩
      rcases hy with heq | heq <;> cases heq <;> omega
    · refine ⟨(u, b), if_neg hle, ?_⟩
      rcases hy with heq | heq <;> cases heq <;> omega

/-- What comes next in a run is due, and nothing is due earlier. -/
theorem due_of_next? (hnext : s.next? = some (t, o)) :
    s.Due t o ∧ ∀ t' o', s.Due t' o' → t ≤ t' := by
  have hfirst {y : Nat × Occurrence} (hy : s.operatorDue = some y ∨
      earlier s.tickDue s.arrivalDue = some y) : t ≤ y.1 := by
    obtain ⟨x, hx, hle⟩ := exists_earlier hy
    cases hnext.symm.trans hx
    exact hle
  refine ⟨due_iff.2 ?_, fun t' o' hdue => ?_⟩
  · rcases eq_or_eq_of_earlier hnext with hoperator | hother
    · exact .inl hoperator
    · exact .inr (eq_or_eq_of_earlier hother)
  · rcases due_iff.1 hdue with hoperator | hother
    · exact hfirst (.inl hoperator)
    · obtain ⟨z, hz, hle⟩ := exists_earlier hother
      exact (hfirst (.inr hz)).trans hle

/-- What is due is still due at its time. -/
theorem Due.waitUntil (hdue : s.Due t o) : (s.waitUntil t).Due (s.waitUntil t).world.now o := by
  have hnow {time : Nat} (hle : time ≤ (s.waitUntil t).world.now) :
      (s.waitUntil t).world.now = max (s.waitUntil t).world.now time :=
    (Nat.max_eq_left hle).symm
  have hlater {time : Nat} : time ≤ max s.world.now (max s.world.now time) := by omega
  cases hdue with
  | line hpresent hlines => exact hnow hlater ▸ .line hpresent hlines
  | leaves hpresent hlines => exact hnow hlater ▸ .leaves hpresent hlines
  | tick htick => exact hnow hlater ▸ .tick htick
  | @arrival link time hlink hdue =>
    obtain ⟨time', hdue', hle⟩ := Reply.Stream.exists_due hdue hlater
    rw [hnow hle]
    exact .arrival hlink hdue'

/-- A turn of a run lets time pass up to what comes next, which then happens in time. -/
theorem allInTime_turn (hending : s.ending? = none) (hnext : s.next? = some (t, o))
    (setup : Setup) : s.AllInTime setup [.wait t, .wake o] := by
  obtain ⟨hdue, hfirst⟩ := due_of_next? hnext
  exact ⟨hfirst, ⟨hending, hdue.waitUntil⟩, trivial⟩

/-! ### Before a tick -/

/-- What is due can wake a session. -/
theorem allows_of_due (hending : s.ending? = none) (hdue : s.Due t o) : s.Allows o := by
  refine ⟨by simp [hending], ?_⟩
  cases hdue with
  | line hpresent hlines => exact hpresent
  | leaves hpresent hlines => exact hpresent
  | tick htick => exact Option.isSome_iff_exists.2 ⟨_, htick⟩
  | arrival hlink hdue => trivial

/-- A tick that is due comes at the time for which the clock is armed. -/
theorem Armed.due_tick_iff (hs : s.Armed time) : s.Due t .tick ↔ t = time := by
  have hmax : max s.world.now time = time := Nat.max_eq_right hs.now_le
  constructor
  · intro hdue
    cases hdue with
    | tick htick =>
      cases hs.nextTick.symm.trans htick
      exact hmax
  · rintro rfl
    exact hmax ▸ .tick hs.nextTick

/-- A run goes on while the clock is armed, unless it is held by a pause. -/
theorem Armed.ending?_eq (hs : s.Armed time) (hheld : s.session.state ≠ .awaitContinue) :
    s.ending? = none := by
  have hstate : s.session.state.awaitsInput = false := by
    cases hstate : s.session.state with
    | awaitContinue => exact absurd hstate hheld
    | awaitTransportSelect => simpa [hs.nextTick] using (hs.coherent.selecting hstate).2.2.1
    | awaitStart => simpa [hs.nextTick] using (hs.coherent.opened hstate).2.2.1
    | idle | init | running | complete => rfl
  simp [ending?, hs.outcome, hstate]

/-- What happens before a tick changes the link and the time at most, and may end a pause. Whatever
wakes the session was waiting. -/
structure Before (h : Happening) (time : Nat) (s s' : Stage) : Prop where
  /-- The session is the same but for its link, and for a pause that a line of the operator ends. -/
  session : ∃ link state, s'.session = { s.session with link, state } ∧
    (state = s.session.state ∨ h.IsLine ∧ s.session.state = .awaitContinue ∧ state = .running)
  /-- Time does not go back. -/
  now_le : s.world.now ≤ s'.world.now
  /-- The time of the tick is not passed. -/
  le_time : s'.world.now ≤ time
  /-- There is less to wake the session, unless the device has sent something. -/
  backlog : s'.backlog + (if h.isWake then 1 else 0) ≤ s.backlog + if h.isSend then 1 else 0

/-- Sending something adds it to what is waiting. -/
theorem backlog_withInbox {change : Reply.Inbox → Reply.Inbox} {n : Nat}
    (hchange : ∀ i, (change i).arrivals.length ≤ i.arrivals.length + n) :
    (s.withInbox change).backlog ≤ s.backlog + n := by
  unfold backlog withInbox
  cases hlink : s.session.link with
  | none => simp
  | some link =>
    have hlength := hchange link.replies.inbox
    simp only [Option.map_some, Option.elim_some]
    omega

/-- A line of the operator was waiting, and leaves the clock alone. -/
theorem Armed.before_line {text : String} (hs : s.Armed time) (hdue : s.Due t (.line text))
    (setup : Setup) : Before (.wake (.line text)) time s (s.perform setup (.line text)) := by
  obtain ⟨time', rest, hpresent, hlines⟩ : ∃ time' rest, s.operator.present ∧
      s.operator.lines = (time', text) :: rest := by
    cases hdue with
    | line hpresent hlines => exact ⟨_, _, hpresent, hlines⟩
  rw [perform, Session.handle_line_of_armed hs.coherent hs.nextTick]
  refine ⟨⟨s.session.link, _, rfl, ?_⟩, Nat.le_refl _, hs.now_le, ?_⟩
  · split
    · next hheld => exact .inr ⟨trivial, hheld, rfl⟩
    · exact .inl rfl
  · simp only [backlog, Happening.isWake, Happening.isSend, hlines, List.drop_one, List.tail_cons,
      List.length_cons, if_true, Bool.false_eq_true, if_false]
    omega

/-- The operator leaves once. -/
theorem Armed.before_leaving (hs : s.Armed time) (hdue : s.Due t .operatorLeaves)
    (setup : Setup) : Before (.wake .operatorLeaves) time s (s.perform setup .operatorLeaves) := by
  have hpresent : s.operator.present := by
    cases hdue with
    | leaves hpresent hlines => exact hpresent
  refine ⟨⟨s.session.link, s.session.state, rfl, .inl rfl⟩, Nat.le_refl _, hs.now_le, ?_⟩
  simp only [perform, backlog, Happening.isWake, Happening.isSend, hpresent, if_true,
    Bool.false_eq_true, if_false]
  omega

/-- An arrival was waiting, and leaves the clock alone. -/
theorem Armed.before_arrival (hs : s.Armed time) (hdue : s.Due s.world.now .arrival)
    (hopen : ∃ new, (s.perform setup .arrival).world.trace.effects =
      s.world.trace.effects ++ new ∧ .closed ∉ new) :
    Before (.wake .arrival) time s (s.perform setup .arrival) := by
  obtain ⟨link, time', hlink, hsome, htime⟩ : ∃ link time', s.session.link = some link ∧
      link.replies.due s.world.now = some time' ∧ time' ≤ s.world.now := by
    generalize hnow : s.world.now = now at hdue
    cases hdue with
    | arrival hlink hsome => exact ⟨_, _, hlink, hnow ▸ hsome, by omega⟩
  obtain ⟨replies, hattend, hlength⟩ :=
    Session.attend_of_due hs.coherent hlink hsome htime setup hopen
  rw [perform, hattend]
  refine ⟨⟨_, s.session.state, rfl, .inl rfl⟩, Nat.le_refl _, hs.now_le, ?_⟩
  simp only [backlog, Happening.isWake, Happening.isSend, hlink, Option.elim_some, if_true,
    Bool.false_eq_true, if_false]
  omega

/-- What happens in time before a tick, and does not close the connection, leaves the clock
alone. -/
theorem Armed.before (hs : s.Armed time) (hin : s.InTime h) (htick : ¬ h.IsTick)
    (hopen : ∃ new, (s.happen setup h).world.trace.effects = s.world.trace.effects ++ new ∧
      .closed ∉ new) : Before h time s (s.happen setup h) := by
  have hsame : ∃ link state, s.session = { s.session with link, state } ∧
      (state = s.session.state ∨
        h.IsLine ∧ s.session.state = .awaitContinue ∧ state = .running) :=
    ⟨s.session.link, s.session.state, rfl, .inl rfl⟩
  cases h with
  | wait t =>
    -- The tick is due, so time does not pass it.
    have hle := hin time .tick (hs.due_tick_iff.2 rfl)
    exact ⟨hsame, Nat.le_max_left _ _, Nat.max_le.2 ⟨hs.now_le, hle⟩, Nat.le_refl _⟩
  | send delay a =>
    refine ⟨⟨_, s.session.state, rfl, .inl rfl⟩, Nat.le_refl _, hs.now_le, ?_⟩
    exact backlog_withInbox (Reply.Inbox.length_post _ delay a)
  | hangUp =>
    refine ⟨⟨_, s.session.state, rfl, .inl rfl⟩, Nat.le_refl _, hs.now_le, ?_⟩
    exact backlog_withInbox fun i => Nat.le_refl _
  | change files => exact ⟨hsame, Nat.le_refl _, hs.now_le, Nat.le_refl _⟩
  | wake o =>
    obtain ⟨hending, hdue⟩ := hin
    have hhappen : s.happen setup (.wake o) = s.perform setup o :=
      if_pos (allows_of_due hending hdue)
    rw [hhappen] at hopen ⊢
    cases o with
    | line text => exact hs.before_line hdue setup
    | operatorLeaves => exact hs.before_leaving hdue setup
    | tick => exact absurd trivial htick
    | arrival => exact hs.before_arrival hdue hopen

/-- What happens before a tick leaves the clock armed for it. -/
theorem Before.armed {s' : Stage} (hbefore : Before h time s s') (hs : s.Armed time)
    (hsound : s'.session.Sound) : s'.Armed time := by
  obtain ⟨link, state, hsession, -⟩ := hbefore.session
  have houtcome : s'.session.outcome = none := by rw [hsession, ← hs.outcome]
  exact ⟨houtcome, hsound.coherent houtcome, by rw [hsession, ← hs.nextTick], hbefore.le_time⟩

/-- What happens first happens in time and does not close the connection, and neither does the
rest. -/
theorem Meanwhile.cons (hs : s.session.Sound) (hlater : s.Meanwhile setup (h :: later)) :
    s.InTime h ∧
      (∃ new, (s.happen setup h).world.trace.effects = s.world.trace.effects ++ new ∧
        .closed ∉ new) ∧
      (s.happen setup h).Meanwhile setup later := by
  obtain ⟨⟨hin, hinTime⟩, all, hall, hopen⟩ := hlater
  obtain ⟨o, -, new, hnew, -⟩ := turns_happen hs setup h
  obtain ⟨more, hmore⟩ := effects_play (sound_happen hs setup h) setup later
  rw [play_cons, hmore, hnew, List.append_assoc, List.append_cancel_left_eq] at hall
  subst hall
  rw [List.mem_append, not_or] at hopen
  exact ⟨hin, ⟨new, hnew, hopen.1⟩, hinTime, more, hmore, hopen.2⟩

/-- The clock ticks next at a time, whatever happens until then: the session stays as it is, its
tick is due at this time and at no other, the time is not passed before it, and nothing but what
waits already and what the device still sends can wake the session before. -/
def TicksAt (setup : Setup) (time : Nat) (s : Stage) : Prop :=
  ∀ later, s.Meanwhile setup later → (∀ h ∈ later, ¬ h.IsTick) →
    let s' := s.play setup later
    s'.session.state = s.session.state ∧ s'.session.engine = s.session.engine ∧
      s'.session.bindings = s.session.bindings ∧
      s'.ending? = none ∧ s'.world.now ≤ time ∧ (∀ t, s'.Due t .tick ↔ t = time) ∧
      later.countP Happening.isWake ≤ s.backlog + later.countP Happening.isSend

/-- The clock ticks next at the time for which it is armed, unless the session is held by a
pause. -/
theorem ticksAt_of_armed (hs : s.Armed time) (hheld : s.session.state ≠ .awaitContinue) :
    s.TicksAt setup time := by
  intro later hlater hticks
  induction later generalizing s with
  | nil =>
    exact ⟨rfl, rfl, rfl, hs.ending?_eq hheld, hs.now_le, fun t => hs.due_tick_iff, Nat.zero_le _⟩
  | cons h later ih =>
    have hsound : s.session.Sound := .goesOn hs.outcome hs.coherent
    obtain ⟨hin, hopen, hrest⟩ := hlater.cons hsound
    obtain ⟨htick, hticks⟩ := List.forall_mem_cons.1 hticks
    have hbefore := hs.before hin htick hopen
    have harmed := hbefore.armed hs (sound_happen hsound setup h)
    obtain ⟨link, state, hsession, hstate⟩ := hbefore.session
    obtain rfl : state = s.session.state := hstate.resolve_right fun hline => hheld hline.2.1
    have hstate' : (s.happen setup h).session.state = s.session.state := by rw [hsession]
    obtain ⟨hsame, hengine, hbindings, hending, hnow, hdue, hwakes⟩ :=
      ih harmed (hstate' ▸ hheld) hrest hticks
    refine ⟨hsame.trans hstate', hengine.trans (by rw [hsession]),
      hbindings.trans (by rw [hsession]), hending, hnow, hdue, ?_⟩
    have hbacklog := hbefore.backlog
    simp only [List.countP_cons]
    omega

end Stage

end BringUp
