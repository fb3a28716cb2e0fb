import BringUp.Proofs.Engine.Effects
import BringUp.Proofs.Reply.Record
import BringUp.Session

/-!
# What comes over the wire

What the device behind a port has sent can be told from outside the session: from the trace, which
says when the port was opened and what was written to the device, and from what the device sends by
itself. The wire holds all of it, whether the session has taken it or not. A link stays at the end
of its wire: what its stream has taken is the front of what came over the wire.

* `Wire.hear`: what an effect leads to on the wire.
* `Contact.Proceeds`: what each part of a session does to the trace and the link.
* `Step.proceeds_run`, `Engine.proceeds_runNext`: steps.
-/

namespace BringUp

/-- What has come over the wire since a port was opened. -/
structure Wire where
  /-- The device at the far end. -/
  device : Device := default
  /-- All that it has sent, taken or not. -/
  sent : Reply.Inbox := {}

namespace Wire

/-- The device sends some things. -/
def emit (now : Nat) (emissions : List Emission) (w : Wire) : Wire :=
  { w with sent := emissions.foldl (fun sent e => sent.post now e.delay e.arrival) w.sent }

/-- What an effect, which comes behind a trace, leads to on the wire: a port that opens is another
wire, and the device answers what is written to it. -/
def hear (setup : Setup) (t : Trace) (w : Wire) : Effect → Wire
  | .opening port baud =>
    match setup.connector.connect t port baud with
    | .ok connection => emit t.now connection.greeting { device := connection.device }
    | .error _ => w
  | .wrote octets =>
    match w.device.respond t octets with
    | .ok emissions => w.emit t.now emissions
    | .error _ => w
  | .tried _ | .shown _ | .called _ _ _ | .listed | .opened _ | .closed | .read _ | .saving _ => w

/-- What effects, which come behind a log, lead to on the wire. -/
def hearAll (setup : Setup) : List (Nat × Effect) → List (Nat × Effect) → Wire → Wire
  | _, [], w => w
  | log, (time, effect) :: new, w =>
    hearAll setup (log ++ [(time, effect)]) new (w.hear setup { now := time, log } effect)

/-- What the effects between two traces lead to on the wire. -/
def between (setup : Setup) (before after : Trace) (w : Wire) : Wire :=
  w.hearAll setup before.log (after.log.drop before.log.length)

theorem hearAll_append (setup : Setup) (log new more : List (Nat × Effect)) (w : Wire) :
    w.hearAll setup log (new ++ more) =
      (w.hearAll setup log new).hearAll setup (log ++ new) more := by
  induction new generalizing log w with
  | nil => rw [List.append_nil]; rfl
  | cons entry new ih =>
    obtain ⟨time, effect⟩ := entry
    rw [List.cons_append, hearAll, ih, List.append_assoc]
    rfl

section

variable (setup : Setup) (w : Wire) {before middle after : Trace}

theorem between_of_log_eq (h : after.log = before.log) : w.between setup before after = w := by
  rw [between, h, List.drop_length]
  rfl

theorem between_record (t : Trace) (effect : Effect) :
    w.between setup t (t.record effect) = w.hear setup t effect := by
  rw [between, Trace.log_record, List.drop_left]
  rfl

/-- The effects from one trace to a third one are those up to the second one and those from there
on. -/
theorem between_trans (h : before.log <+: middle.log) (h' : middle.log <+: after.log) :
    (w.between setup before middle).between setup middle after = w.between setup before after := by
  obtain ⟨new, hnew⟩ := h
  obtain ⟨more, hmore⟩ := h'
  rw [between, between, between, ← hmore, ← hnew, List.drop_left, List.drop_left,
    List.append_assoc, List.drop_left, hearAll_append]

end

end Wire

/-- The path of the file that an effect writes, if it writes one. -/
def Effect.saved? : Effect → Option String
  | .saving path => some path
  | _ => none

/-- The paths of the transcripts that were written, or that the attempt was made to write. -/
def Trace.saved (t : Trace) : List String := t.effects.filterMap Effect.saved?

/-- An effect that comes to nothing on the wire and writes no transcript. -/
def Effect.IsSilent : Effect → Prop
  | .opening _ _ | .wrote _ | .saving _ => False
  | .tried _ | .shown _ | .called _ _ _ | .listed | .opened _ | .closed | .read _ => True

theorem Effect.IsSilent.hear_eq {effect : Effect} (h : effect.IsSilent) (setup : Setup) (t : Trace)
    (w : Wire) : w.hear setup t effect = w := by
  cases effect <;> first | rfl | exact h.elim

theorem Effect.IsSilent.saved?_eq {effect : Effect} (h : effect.IsSilent) :
    effect.saved? = none := by
  cases effect <;> first | rfl | exact h.elim

/-- What the device sends disturbs nothing that was taken. -/
theorem Link.follows_emit {sent : Reply.Inbox} {taken : List (Nat × Reply.Arrival)} {now : Nat}
    {l : Link} (h : l.replies.Follows sent taken now) (emissions : List Emission) :
    (l.emit now emissions).replies.Follows
      (emissions.foldl (fun sent e => sent.post now e.delay e.arrival) sent) taken now := by
  induction emissions generalizing l sent with
  | nil => exact h
  | cons e emissions ih =>
    exact ih (l := { l with replies.inbox := l.replies.inbox.post now e.delay e.arrival })
      (h.post e.delay e.arrival)

@[simp]
theorem Link.device_emit (now : Nat) (emissions : List Emission) (l : Link) :
    (l.emit now emissions).device = l.device := by
  rw [emit_eq]

/-- A trace and the link that is open, if one is. -/
structure Contact where
  /-- What has happened so far. -/
  trace : Trace
  /-- The link to the device. -/
  link : Option Link

namespace Contact

/-- A link that is open is at the end of a wire: the device is the same, and what the stream of the
link has taken is the front of what came over the wire. -/
def Fits (c : Contact) (wire : Wire) : Prop :=
  ∀ link, c.link = some link →
    link.device = wire.device ∧ ∃ taken, link.replies.Follows wire.sent taken c.trace.now

/-- From one contact to a later one: effects are added to the trace, none of which writes a
transcript, and a link that is open is at the end of the wire still. -/
structure Proceeds (setup : Setup) (c c' : Contact) : Prop where
  /-- Effects are added to the trace. -/
  log : c.trace.log <+: c'.trace.log
  /-- No time is taken back. -/
  now_le : c.trace.now ≤ c'.trace.now
  /-- No transcript is written. -/
  saved : c'.trace.saved = c.trace.saved
  /-- A link is at the end of the wire. -/
  fits : ∀ wire, c.Fits wire → c'.Fits (wire.between setup c.trace c'.trace)

namespace Proceeds

variable {setup : Setup} {c c' c'' : Contact} {t : Trace} {link : Option Link} {l : Link}

/-- Nothing is done. -/
theorem refl (c : Contact) : c.Proceeds setup c where
  log := List.prefix_rfl
  now_le := Nat.le_refl _
  saved := rfl
  fits wire hfits := by rwa [wire.between_of_log_eq setup rfl]

/-- One thing is done after another. -/
theorem trans (h : c.Proceeds setup c') (h' : c'.Proceeds setup c'') : c.Proceeds setup c'' where
  log := h.log.trans h'.log
  now_le := Nat.le_trans h.now_le h'.now_le
  saved := h'.saved.trans h.saved
  fits wire hfits := by
    rw [← wire.between_trans setup h.log h'.log]
    exact h'.fits _ (h.fits wire hfits)

/-- A silent effect is recorded. -/
theorem record (t : Trace) (link : Option Link) (effect : Effect) (heffect : effect.IsSilent) :
    Proceeds setup ⟨t, link⟩ ⟨t.record effect, link⟩ where
  log := List.prefix_append _ _
  now_le := Nat.le_refl _
  saved := by simp [Trace.saved, heffect.saved?_eq]
  fits wire hfits := by
    rw [wire.between_record, heffect.hear_eq]
    exact hfits

/-- Lines are shown. -/
theorem showLines (lines : List String) (t : Trace) (link : Option Link) :
    Proceeds setup ⟨t, link⟩ ⟨t.showLines lines, link⟩ := by
  induction lines generalizing t with
  | nil => exact .refl _
  | cons line lines ih => exact (record t link (.shown line) trivial).trans (ih _)

/-- The link is dropped. -/
theorem drop (t : Trace) (link : Option Link) : Proceeds setup ⟨t, link⟩ ⟨t, none⟩ where
  log := List.prefix_rfl
  now_le := Nat.le_refl _
  saved := rfl
  fits _ _ := nofun

/-- Some time passes. -/
theorem pass (time : Nat) (t : Trace) (link : Option Link) :
    Proceeds setup ⟨t, link⟩ ⟨t.pass time, link⟩ where
  log := List.prefix_rfl
  now_le := Nat.le_add_right _ _
  saved := rfl
  fits wire hfits := by
    rw [wire.between_of_log_eq setup (t.log_pass time)]
    intro l hl
    obtain ⟨hdevice, taken, hfollows⟩ := hfits l hl
    exact ⟨hdevice, taken, hfollows.mono (Nat.le_add_right _ _)⟩

/-- Something is taken from the stream of the link, and its queue and its wait may change. -/
theorem takes {time : Nat} {taken : List (Nat × Reply.Arrival)} {middle : Reply.Stream}
    (h : Reply.Stream.Takes time l.replies taken middle) (hle : t.now ≤ time)
    (lines : List String) (armed : Bool) :
    Proceeds setup ⟨t, some l⟩
      ⟨t.waitUntil time, some { l with replies := { middle with lines, armed } }⟩ where
  log := List.prefix_rfl
  now_le := Nat.le_max_left _ _
  saved := rfl
  fits wire hfits := by
    -- Nothing is heard while time passes, but more of what came over the wire is taken.
    rw [wire.between_of_log_eq setup (t.log_waitUntil time)]
    rintro _ ⟨⟩
    obtain ⟨hdevice, before, hfollows⟩ := hfits l rfl
    have hnow : (t.waitUntil time).now = time := Nat.max_eq_right hle
    refine ⟨hdevice, before ++ taken, ?_⟩
    rw [hnow]
    exact (hfollows.takes h hle).withQueue lines armed

/-- Something is taken from the stream of the link at once. -/
theorem takesNow {taken : List (Nat × Reply.Arrival)} {middle : Reply.Stream}
    (h : Reply.Stream.Takes t.now l.replies taken middle) (lines : List String) (armed : Bool) :
    Proceeds setup ⟨t, some l⟩ ⟨t, some { l with replies := { middle with lines, armed } }⟩ := by
  have hwait : t.waitUntil t.now = t := by rw [Trace.waitUntil, Nat.max_self]
  have hproceeds : Proceeds setup ⟨t, some l⟩
      ⟨t.waitUntil t.now, some { l with replies := { middle with lines, armed } }⟩ :=
    takes h (Nat.le_refl t.now) lines armed
  rwa [hwait] at hproceeds

/-- A line is written to the device, which answers. -/
theorem send {line : String} {t' : Trace} {l' : Link} (h : l.send line t = .ok (t', l')) :
    Proceeds setup ⟨t, some l⟩ ⟨t', some l'⟩ := by
  unfold Link.send at h
  split at h
  · cases h
  · rename_i emissions hrespond
    cases h
    refine ⟨List.prefix_append _ _, Nat.le_refl _, by simp [Trace.saved, Effect.saved?], ?_⟩
    intro wire hfits
    obtain ⟨hdevice, taken, hfollows⟩ := hfits l rfl
    -- The device is the one that was asked, so that it answers over the wire, too.
    rw [wire.between_record, Wire.hear, ← hdevice, hrespond]
    rintro _ ⟨⟩
    exact ⟨(l.device_emit t.now emissions).trans hdevice, taken,
      Link.follows_emit hfollows emissions⟩

/-- A command is written, and its reply is waited for. -/
theorem request (command : String) (wait : Reply.Wait) (timeout : Nat) (t : Trace) (l : Link) :
    Proceeds setup ⟨t, some l⟩
      ⟨(l.request command wait timeout t).2.1, some (l.request command wait timeout t).2.2⟩ := by
  obtain ⟨taken, htaken⟩ := l.replies.takes_drain t.now
  unfold Link.request
  simp only
  split
  · -- The device refuses the command; what was taken when the wait was armed stays taken.
    exact takesNow htaken [] false
  · rename_i t' l' hsend
    obtain ⟨more, middle, hmore, hafter⟩ := l'.replies.takes_await wait timeout t'.now
    have hle : t'.now ≤ (l'.replies.await wait timeout t'.now).2.1 :=
      l'.replies.le_awaitFrom wait (t'.now + timeout) _ t'.now
    have harmed : Proceeds setup ⟨t, some l⟩ ⟨t, some { l with replies := l.replies.arm t.now }⟩ :=
      takesNow htaken [] true
    rw [hafter]
    exact (harmed.trans (send hsend)).trans (takes hmore hle [] false)

/-- A port is asked to open, and does not. -/
theorem refused {port : String} {baud : Nat} {failure : Failure}
    (h : setup.connector.connect t port baud = .error failure) :
    Proceeds setup ⟨t, link⟩ ⟨t.record (.opening port baud), link⟩ where
  log := List.prefix_append _ _
  now_le := Nat.le_refl _
  saved := by simp [Trace.saved, Effect.saved?]
  fits wire hfits := by
    rw [wire.between_record, Wire.hear, h]
    exact hfits

/-- A port is asked to open, and another wire begins. -/
theorem opened {port : String} {baud : Nat} {connection : Connection}
    (h : setup.connector.connect t port baud = .ok connection) :
    Proceeds setup ⟨t, link⟩ ⟨t.record (.opening port baud), some (connection.link t.now)⟩ where
  log := List.prefix_append _ _
  now_le := Nat.le_refl _
  saved := by simp [Trace.saved, Effect.saved?]
  fits wire _ := by
    rw [wire.between_record, Wire.hear, h]
    rintro _ ⟨⟩
    exact ⟨Link.device_emit _ _ _, [], Link.follows_emit (.new t.now) connection.greeting⟩

end Proceeds

end Contact

/-! ### Steps -/

/-- The trace and the link of a rig. -/
def Rig.contact (r : Rig) : Contact := ⟨r.trace, some r.link⟩

theorem Rig.proceeds_showLine (setup : Setup) (line : String) (r : Rig) :
    r.contact.Proceeds setup (r.showLine line).contact :=
  .record r.trace (some r.link) (.shown line) trivial

theorem Rig.proceeds_call (setup : Setup) (name : String) (arguments : List String) (f : Function)
    (r : Rig) : r.contact.Proceeds setup (r.call name arguments f).2.contact :=
  have hcalled := Contact.Proceeds.record r.trace (some r.link)
    (.called name arguments (f r.trace arguments).result.toOption) trivial
  hcalled.trans (.pass (f r.trace arguments).duration _ _)

theorem Execution.proceeds_run (setup : Setup) (tools : Tools) (e : Execution) (r : Rig) :
    r.contact.Proceeds setup (e.run tools r).2.contact := by
  unfold run
  split
  · exact .refl _
  · rename_i f _
    have hcalled := r.proceeds_call setup e.function e.arguments f
    simp only
    split
    · exact hcalled
    · split
      · exact hcalled
      · exact hcalled

theorem Comparison.proceeds_run (setup : Setup) (tools : Tools) (c : Comparison) (r : Rig) :
    r.contact.Proceeds setup (c.run tools r).2.contact := by
  have hrequest : r.contact.Proceeds setup
      (r.request c.command c.check.wait (c.check.timeout tools)).2.contact :=
    .request c.command c.check.wait (c.check.timeout tools) r.trace r.link
  unfold run
  simp only
  split
  · exact hrequest
  · split
    · exact hrequest
    · exact hrequest

/-- Running a step leaves the link at the end of the wire. -/
theorem Step.proceeds_run (setup : Setup) (tools : Tools) (s : Step) (r : Rig) :
    r.contact.Proceeds setup (s.run tools r).2.contact := by
  cases s with
  | pause text => exact r.proceeds_showLine setup _
  | print text => exact r.proceeds_showLine setup _
  | execute execution => exact execution.proceeds_run setup tools r
  | compare comparison => exact comparison.proceeds_run setup tools r
  | checkVariable check => exact .refl _
  | invalid raw => exact .refl _
  | send line =>
    simp only [run]
    split
    · exact .refl _
    · exact .send ‹_›

/-- Once an entry is tried, running it leaves the link at the end of the wire. -/
theorem Engine.proceeds_of_trying {e : Engine} {entry : Script.Entry}
    (hentry : e.entries[e.cursor]? = some entry) (setup : Setup) (tools : Tools) (r : Rig) :
    (e.trying r).contact.Proceeds setup (e.runNext tools r).2.2.contact := by
  have hfail (error : StepError) (r : Rig) :
      r.contact.Proceeds setup (e.fail tools error r).2.2.contact := by
    unfold fail
    split
    · exact .refl _
    · exact r.proceeds_showLine setup _
  have hsucceed (isCheck : Bool) (flow : Flow) (r : Rig) :
      r.contact.Proceeds setup (e.succeed isCheck flow r).2.2.contact := by
    have htold : r.contact.Proceeds setup
        (if isCheck then r.showLine "\tSUCCESS" else r).contact := by
      cases isCheck with
      | true => exact r.proceeds_showLine setup _
      | false => exact .refl _
    cases flow with
    | proceed => exact htold
    | pause => exact htold
  unfold runNext
  rw [hentry]
  simp only
  split
  · exact hfail _ _
  · rename_i step _
    have hrun := step.proceeds_run setup tools (e.trying r)
    split
    · rename_i flow after heq
      have hafter : (step.run tools (e.trying r)).2 = after := congrArg Prod.snd heq
      rw [hafter] at hrun
      exact hrun.trans (hsucceed _ flow after)
    · rename_i error after heq
      have hafter : (step.run tools (e.trying r)).2 = after := congrArg Prod.snd heq
      rw [hafter] at hrun
      exact hrun.trans (hfail error after)

/-- Running the entry at the cursor leaves the link at the end of the wire. -/
theorem Engine.proceeds_runNext (setup : Setup) (tools : Tools) (e : Engine) (r : Rig) :
    r.contact.Proceeds setup (e.runNext tools r).2.2.contact := by
  cases hentry : e.entries[e.cursor]? with
  | none =>
    rw [runNext, hentry]
    exact .refl _
  | some entry =>
    have htried : r.contact.Proceeds setup (e.trying r).contact :=
      .record r.trace (some r.link) (.tried e.cursor) trivial
    exact htried.trans (proceeds_of_trying hentry setup tools r)

end BringUp
