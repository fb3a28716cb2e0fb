import BringUp.Engine

/-!
# What running an entry does

Whatever a step does to the outside is in the trace, and a step can do only three things there: show
a line, write a line and call a function. It leaves the link as quiet as it found it: no wait is
armed and no line is queued.

* `Step.leads_run`: what a step does to its rig.
* `Step.bindings_run_of_error`: a step that fails changes no variable.
* `Engine.ran_runNext`: all that running the entry at the cursor can lead to.
-/

namespace BringUp

/-- The effects so far, without their times. -/
def Trace.effects (t : Trace) : List Effect := t.log.map Prod.snd

namespace Trace

@[simp]
theorem effects_record (effect : Effect) (t : Trace) :
    (t.record effect).effects = t.effects ++ [effect] := by
  simp [effects]

@[simp]
theorem effects_waitUntil (time : Nat) (t : Trace) : (t.waitUntil time).effects = t.effects := rfl

@[simp]
theorem effects_pass (time : Nat) (t : Trace) : (t.pass time).effects = t.effects := rfl

@[simp]
theorem effects_showLines (lines : List String) (t : Trace) :
    (t.showLines lines).effects = t.effects ++ lines.map .shown := by
  induction lines generalizing t with
  | nil => simp [showLines]
  | cons line lines ih =>
    have hcons : t.showLines (line :: lines) = (t.record (.shown line)).showLines lines := rfl
    rw [hcons, ih, effects_record, List.append_assoc]
    rfl

end Trace

/-- An effect that a step can have. -/
def Effect.IsOfStep : Effect → Prop
  | .shown _ | .wrote _ | .called _ _ _ => True
  | _ => False

/-! ### Quiet links -/

namespace Link

/-- A link with no wait armed and no line queued. -/
structure IsQuiet (l : Link) : Prop where
  /-- No wait is armed. -/
  armed : l.replies.armed = false
  /-- No line is queued. -/
  lines : l.replies.lines = []

/-- What the device sends disturbs nobody. -/
theorem IsQuiet.emit {l : Link} (h : l.IsQuiet) (now : Nat) (emissions : List Emission) :
    (l.emit now emissions).IsQuiet := by
  rw [emit_eq]
  exact ⟨h.armed, h.lines⟩

/-- What is taken from a quiet link is not queued. -/
theorem IsQuiet.pump {l : Link} (h : l.IsQuiet) {now : Nat} {isOpen : Bool}
    {replies : Reply.Stream} (hpump : l.replies.pump? now = some (isOpen, replies)) :
    ({ l with replies } : Link).IsQuiet := by
  have htake (rest : List (Nat × Reply.Arrival)) (a : Reply.Arrival) :
      ({ l with replies := (l.replies.withArrivals rest).take a } : Link).IsQuiet := by
    cases a with
    | closed => exact ⟨h.armed, h.lines⟩
    | data bytes =>
      refine ⟨h.armed, ?_⟩
      simp [Reply.Stream.take, Reply.Stream.withArrivals, h.armed, h.lines]
  unfold Reply.Stream.pump? at hpump
  split at hpump
  · cases hpump
    exact h
  · split at hpump
    · split at hpump
      · cases hpump
        exact ⟨h.armed, h.lines⟩
      · cases hpump
    · rename_i time a rest _
      split at hpump
      · cases hpump
        exact htake rest a
      · cases hpump

/-- A line that is written is in the trace. -/
theorem send_eq_ok {line : String} {t t' : Trace} {l l' : Link}
    (h : l.send line t = .ok (t', l')) :
    t' = t.record (.wrote (octets line)) ∧ (l.IsQuiet → l'.IsQuiet) := by
  unfold send at h
  split at h
  · cases h
  · rename_i emissions _
    cases h
    exact ⟨rfl, fun hl => hl.emit t.now emissions⟩

/-- A request writes its command, or cannot, and ends its wait in any case. -/
theorem request_effects (command : String) (wait : Reply.Wait) (timeout : Nat) (t : Trace)
    (l : Link) :
    ((l.request command wait timeout t).2.1.effects = t.effects ∨
        (l.request command wait timeout t).2.1.effects = t.effects ++ [.wrote (octets command)]) ∧
      (l.request command wait timeout t).2.2.IsQuiet := by
  unfold request
  simp only
  split
  · -- The device refuses the command; the wait that was armed for it is ended all the same.
    exact ⟨.inl rfl, rfl, rfl⟩
  · rename_i t' l' hsend
    obtain ⟨rfl, -⟩ := send_eq_ok hsend
    exact ⟨.inr (by simp), rfl, rfl⟩

end Link

/-! ### Steps -/

/-- From one rig a step leads to another: it adds effects, and leaves a quiet link quiet. -/
structure Rig.Leads (before : Rig) (new : List Effect) (after : Rig) : Prop where
  /-- The effects are added to the trace. -/
  effects : after.trace.effects = before.trace.effects ++ new
  /-- They are effects that a step can have. -/
  ofStep : ∀ effect ∈ new, effect.IsOfStep
  /-- A quiet link is left quiet. -/
  quiet : before.link.IsQuiet → after.link.IsQuiet

namespace Rig.Leads

/-- Nothing is done. -/
theorem refl (r : Rig) : r.Leads [] r := ⟨by simp, by simp, id⟩

/-- One thing is done after another. -/
theorem trans {before middle after : Rig} {new more : List Effect} (h : before.Leads new middle)
    (h' : middle.Leads more after) : before.Leads (new ++ more) after where
  effects := by rw [h'.effects, h.effects, List.append_assoc]
  ofStep effect hmem := (List.mem_append.1 hmem).elim (h.ofStep effect) (h'.ofStep effect)
  quiet := h'.quiet ∘ h.quiet

/-- An effect is recorded. -/
theorem record (r : Rig) (effect : Effect) (heffect : effect.IsOfStep) :
    r.Leads [effect] { r with trace := r.trace.record effect } where
  effects := r.trace.effects_record effect
  ofStep _ hmem := List.mem_singleton.1 hmem ▸ heffect
  quiet := id

/-- What a step does to the variables is not seen outside. -/
theorem withBindings {before after : Rig} {new : List Effect} (h : before.Leads new after)
    (bindings : Variables) : before.Leads new { after with bindings } :=
  ⟨h.effects, h.ofStep, h.quiet⟩

end Rig.Leads

/-- A call leads from rig to rig. -/
theorem Rig.leads_call (name : String) (arguments : List String) (f : Function) (r : Rig) :
    r.Leads [.called name arguments (f r.trace arguments).result.toOption]
      (r.call name arguments f).2 where
  effects := by simp [call]
  ofStep _ hmem := List.mem_singleton.1 hmem ▸ trivial
  quiet := id

/-- A request leads from rig to rig. -/
theorem Rig.leads_request (command : String) (wait : Reply.Wait) (timeout : Nat) (r : Rig) :
    ∃ new, r.Leads new (r.request command wait timeout).2 := by
  obtain ⟨heffects, hquiet⟩ := r.link.request_effects command wait timeout r.trace
  rcases heffects with heffects | heffects
  · exact ⟨[], by rw [List.append_nil]; exact heffects, by simp, fun _ => hquiet⟩
  · exact ⟨[.wrote (Link.octets command)], heffects, by simp [Effect.IsOfStep], fun _ => hquiet⟩

theorem Execution.leads_run (tools : Tools) (e : Execution) (r : Rig) :
    ∃ new, r.Leads new (e.run tools r).2 := by
  unfold run
  split
  · exact ⟨[], .refl r⟩
  · rename_i f _
    have hcalled := r.leads_call e.function e.arguments f
    simp only
    split
    · exact ⟨_, hcalled⟩
    · split
      · exact ⟨_, hcalled⟩
      · exact ⟨_, hcalled.withBindings _⟩

theorem Comparison.leads_run (tools : Tools) (c : Comparison) (r : Rig) :
    ∃ new, r.Leads new (c.run tools r).2 := by
  obtain ⟨new, hrequest⟩ := r.leads_request c.command c.check.wait (c.check.timeout tools)
  refine ⟨new, ?_⟩
  unfold run
  simp only
  split
  · exact hrequest
  · split
    · exact hrequest
    · exact hrequest.withBindings _

namespace Step

/-- A step only adds effects of its own, and leaves a quiet link quiet. -/
theorem leads_run (tools : Tools) (s : Step) (r : Rig) : ∃ new, r.Leads new (s.run tools r).2 := by
  cases s with
  | pause text => exact ⟨_, .record r (.shown _) trivial⟩
  | print text => exact ⟨_, .record r (.shown _) trivial⟩
  | execute execution => exact execution.leads_run tools r
  | compare comparison => exact comparison.leads_run tools r
  | checkVariable check => exact ⟨[], .refl r⟩
  | invalid raw => exact ⟨[], .refl r⟩
  | send line =>
    simp only [run]
    split
    · exact ⟨[], .refl r⟩
    · rename_i trace link hsend
      obtain ⟨rfl, hquiet⟩ := Link.send_eq_ok hsend
      exact ⟨[.wrote (Link.octets line)], Trace.effects_record _ _, by simp [Effect.IsOfStep],
        hquiet⟩

/-- A step that fails changes no variable. -/
theorem bindings_run_of_error {tools : Tools} {s : Step} {r after : Rig} {error : StepError}
    (h : s.run tools r = (.error error, after)) : after.bindings = r.bindings := by
  -- Variables are set behind the last check of a step, where it can only succeed.
  cases s with
  | pause text => cases h
  | print text => cases h
  | execute execution =>
    simp only [run, Execution.run] at h
    split at h
    · cases h
      rfl
    · split at h
      · cases h
        rfl
      · split at h
        · cases h
          rfl
        · cases h
  | compare comparison =>
    simp only [run, Comparison.run, Rig.request] at h
    split at h
    · cases h
      rfl
    · split at h
      · cases h
        rfl
      · cases h
  | checkVariable check => rw [← (Prod.mk.inj h).2]
  | invalid raw =>
    cases h
    rfl
  | send line =>
    simp only [run] at h
    split at h
    · cases h
      rfl
    · cases h

end Step

/-! ### Entries -/

namespace Engine

/-- The rig on which the step at the cursor runs. -/
def trying (e : Engine) (r : Rig) : Rig := { r with trace := r.trace.record (.tried e.cursor) }

/-- All that running the entry at the cursor can lead to. -/
inductive Ran (e : Engine) (r : Rig) : Advance × Engine × Rig → Prop where
  /-- No entry is left, and nothing is done. -/
  | exhausted : e.size ≤ e.cursor → Ran e r (.exhausted, e, r)
  /-- The step succeeds, and the cursor moves on. -/
  | succeeded {advance : Advance} {new : List Effect} {after : Rig} : e.cursor < e.size →
      advance = .next ∨ advance = .pause → (e.trying r).Leads new after →
      Ran e r (advance, { e with cursor := e.cursor + 1 }, after)
  /-- The step fails. -/
  | failed {error : StepError} {new : List Effect} {after : Rig} : e.cursor < e.size →
      (e.trying r).Leads new after → after.bindings = r.bindings →
      Ran e r (.failed error, e, after)
  /-- The connection is lost. -/
  | lost {new : List Effect} {after : Rig} : e.cursor < e.size → (e.trying r).Leads new after →
      after.bindings = r.bindings → Ran e r (.transportClosed, e, after)

/-- A step that fails, after it has led to a rig. -/
theorem ran_fail {e : Engine} {r after : Rig} {new : List Effect} (hcursor : e.cursor < e.size)
    (hleads : (e.trying r).Leads new after) (hbindings : after.bindings = r.bindings)
    (tools : Tools) (error : StepError) : Ran e r (e.fail tools error after) := by
  unfold fail
  split
  · exact .lost hcursor hleads hbindings
  · exact .failed hcursor (hleads.trans (.record after (.shown _) trivial)) hbindings

/-- A step that succeeds, after it has led to a rig. -/
theorem ran_succeed {e : Engine} {r after : Rig} {new : List Effect} (hcursor : e.cursor < e.size)
    (hleads : (e.trying r).Leads new after) (isCheck : Bool) (flow : Flow) :
    Ran e r (e.succeed isCheck flow after) := by
  have htold : ∃ new, (e.trying r).Leads new
      (if isCheck then after.showLine "\tSUCCESS" else after) := by
    cases isCheck with
    | true => exact ⟨_, hleads.trans (.record after (.shown _) trivial)⟩
    | false => exact ⟨new, hleads⟩
  obtain ⟨new', hleads'⟩ := htold
  cases flow with
  | proceed => exact .succeeded hcursor (.inl rfl) hleads'
  | pause => exact .succeeded hcursor (.inr rfl) hleads'

/-- What running the entry at the cursor leads to is one of these. -/
theorem ran_runNext (tools : Tools) (e : Engine) (r : Rig) : Ran e r (e.runNext tools r) := by
  unfold runNext
  split
  · rename_i hnone
    exact .exhausted (List.getElem?_eq_none_iff.1 hnone)
  · rename_i entry hentry
    have hcursor : e.cursor < e.size := (List.getElem?_eq_some_iff.1 hentry).1
    -- An entry whose line is no step counts as tried, too.
    split
    · exact ran_fail hcursor (.refl _) rfl tools _
    · rename_i step _
      obtain ⟨new, hleads⟩ := step.leads_run tools (e.trying r)
      simp only
      split
      · rename_i flow after hrun
        have hafter : (e.trying r).Leads new after := by rwa [trying, hrun] at hleads
        exact ran_succeed hcursor hafter _ flow
      · rename_i error after hrun
        have hafter : (e.trying r).Leads new after := by rwa [trying, hrun] at hleads
        have hbindings : after.bindings = (e.trying r).bindings := Step.bindings_run_of_error hrun
        exact ran_fail hcursor hafter hbindings tools error

end Engine

end BringUp
