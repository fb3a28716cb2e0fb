import BringUp.Proofs.Session.Turn

/-!
# Everything that can happen to a session

A run takes what happens in the order of its time. Here anything may happen at any moment: the
operator types any line, the clock ticks whenever it is armed, the device sends what it likes and
hangs up when it likes, and files change. What holds after all that can happen, in whatever order,
holds of every run.

* `Stage.play`: what happens, one thing after the other.
* `Stage.keep_play`: what everything that happens keeps, a run keeps.
* `Stage.exists_play_of_runFrom`: the runs are among all that can happen.
-/

namespace BringUp

/-- Something that happens to a session or around it. -/
inductive Happening where
  /-- Time passes. -/
  | wait (time : Nat)
  /-- The device sends something by itself, which arrives after `delay`. -/
  | send (delay : Nat) (a : Reply.Arrival)
  /-- The device hangs up. -/
  | hangUp
  /-- The files change. -/
  | change (files : FileTree)
  /-- The session is woken. -/
  | wake (o : Occurrence)

namespace Stage

/-- What can wake a session: a line while the operator is there, a tick while the clock is armed,
and an arrival at any time; nothing once the run is over. -/
def Allows (s : Stage) (o : Occurrence) : Prop :=
  s.ending?.isNone ∧
    match o with
    | .line _ | .operatorLeaves => s.operator.present
    | .tick => s.session.nextTick.isSome
    | .arrival => True

instance (s : Stage) (o : Occurrence) : Decidable (s.Allows o) := by
  unfold Allows
  cases o <;> infer_instance

/-- The stage after something has changed what the device is about to send. -/
def withInbox (change : Reply.Inbox → Reply.Inbox) (s : Stage) : Stage :=
  { s with
    session.link :=
      s.session.link.map fun l => { l with replies.inbox := change l.replies.inbox } }

/-- Something happens, unless it cannot. -/
def happen (setup : Setup) (s : Stage) : Happening → Stage
  | .wait time => s.waitUntil time
  | .send delay a => s.withInbox (·.post s.world.now delay a)
  | .hangUp => s.withInbox (·.hangUp)
  | .change files => { s with world.files := files }
  | .wake o => if s.Allows o then s.perform setup o else s

/-- Things happen, one after the other. -/
def play (setup : Setup) (s : Stage) (happenings : List Happening) : Stage :=
  happenings.foldl (happen setup) s

/-- A session that has just started. -/
def started (setup : Setup) (files : FileTree) (operator : Operator) : Stage where
  session := (Session.start setup { files }).1
  world := (Session.start setup { files }).2
  operator

theorem play_cons (setup : Setup) (s : Stage) (h : Happening) (happenings : List Happening) :
    s.play setup (h :: happenings) = (s.happen setup h).play setup happenings := rfl

/-- Some things happen, and then some more. -/
theorem play_append (setup : Setup) (s : Stage) (before later : List Happening) :
    s.play setup (before ++ later) = (s.play setup before).play setup later :=
  List.foldl_append

/-- What nothing ends, no number of things ends. -/
theorem keep_play {P : Stage → Prop} {setup : Setup} {happenings : List Happening}
    (hkeep : ∀ s, ∀ h ∈ happenings, P s → P (s.happen setup h)) {s : Stage} (hs : P s) :
    P (s.play setup happenings) := by
  induction happenings generalizing s with
  | nil => exact hs
  | cons h happenings ih =>
    exact ih (fun s h hmem => hkeep s h (List.mem_cons_of_mem _ hmem))
      (hkeep s h List.mem_cons_self hs)

/-! ### The runs are among all that can happen -/

/-- The earlier of two things is one of them. -/
theorem eq_or_eq_of_earlier {α : Type} {a b : Option (Nat × α)} {x : Nat × α}
    (h : earlier a b = some x) : a = some x ∨ b = some x := by
  unfold earlier at h
  split at h
  · split at h
    · exact .inl h
    · exact .inr h
  · exact .inl h
  · exact .inr h

/-- What is due can happen. -/
theorem allows_of_next? {s : Stage} (hending : s.ending? = none) {time : Nat} {o : Occurrence}
    (hnext : s.next? = some (time, o)) : (s.waitUntil time).Allows o := by
  have hgoesOn : (s.waitUntil time).ending?.isNone := by
    have hsame : (s.waitUntil time).ending? = s.ending? := rfl
    rw [hsame, hending]
    rfl
  refine ⟨hgoesOn, ?_⟩
  -- What is due comes from the operator, the clock or the device, each behind its own guard.
  rcases eq_or_eq_of_earlier hnext with hoperator | hother
  · unfold operatorDue at hoperator
    split at hoperator
    · rename_i hpresent
      split at hoperator <;> cases hoperator <;> exact hpresent
    · cases hoperator
  · rcases eq_or_eq_of_earlier hother with htick | harrival
    · obtain ⟨tick, hsome, heq⟩ := Option.map_eq_some_iff.1 htick
      cases heq
      exact Option.isSome_iff_exists.2 ⟨tick, hsome⟩
    · obtain ⟨link, -, harrival⟩ := Option.bind_eq_some_iff.1 harrival
      obtain ⟨due, -, heq⟩ := Option.map_eq_some_iff.1 harrival
      cases heq
      trivial

/-- A run that ends has done nothing but what can happen. -/
theorem exists_play_of_runFrom {setup : Setup} {limit turns : Nat} {s s' : Stage}
    {outcome : Except Failure String}
    (h : runFrom setup limit turns s = (.finished outcome, s')) :
    ∃ happenings, s' = s.play setup happenings ∧ s'.ending? = some outcome := by
  induction turns generalizing s with
  | zero => cases h
  | succ turns ih =>
    rw [runFrom] at h
    split at h
    · rename_i outcome' hending
      cases h
      exact ⟨[], rfl, hending⟩
    · rename_i hending
      split at h
      · cases h
      · rename_i time o hnext
        split at h
        · cases h
        · simp only at h
          split at h
          · cases h
          · obtain ⟨happenings, hplay, hending'⟩ := ih h
            -- A turn of the run lets time pass up to what is due, which then happens.
            refine ⟨.wait time :: .wake o :: happenings, ?_, hending'⟩
            have hallows := allows_of_next? hending hnext
            rw [hplay, play_cons, play_cons, happen, happen, if_pos hallows]

end Stage

/-! ### A small run -/

namespace Sample

/-- A setup in which every port opens, with a silent device behind it. -/
def setup : Setup where
  settings := { commandList := "c", commandSequence := "s" }
  connector :=
    { discover := fun _ => .ok []
      connect := fun _ port _ => .ok { name := port, device := default } }

/-- A command list with the one line `A`, and a sequence with the lines `0` and `##x`: the command
is sent, and then the operator is asked to go on. -/
def files : FileTree where
  entries := [(["c"], .file [65, 13, 10]), (["s"], .file [48, 13, 10, 35, 35, 120])]

/-- The sequence up to its pause. -/
def toPause : List Happening :=
  [.wake (.line "p"), .wake (.line ""), .wake .tick, .wake .tick]

/-- What has happened when the sequence is held by its pause. -/
def held : Stage := (Stage.started setup files {}).play setup toPause

end Sample

end BringUp
