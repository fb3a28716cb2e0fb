import BringUp.Proofs.Engine.Account
import BringUp.Proofs.Reply.Delivery
import BringUp.Proofs.Session.Wire
import BringUp.Proofs.Variables.Capture

/-!
# Which steps set variables, and from what

Only a step with a pattern sets variables, and only when it succeeds. It takes their values from the
result of the function that it calls, or from the line of the reply that its pattern matches. That
line has become whole on the link since the step armed its wait.

* `Step.pattern?`: the pattern of a step.
* `Step.Reads`: the text that a step takes values from.
* `Engine.sets_runNext`: what running an entry does to the variables.
* `Link.fresh_of_request`: which line a pattern matches.
* `Engine.transcript_runNext`: the transcript of the link only grows.
-/

namespace BringUp

/-- The pattern of an expectation, if it has one. -/
def Expectation.pattern? : Expectation → Option Pattern
  | .exact _ => none
  | .pattern p => some p

/-- The pattern of a check of a reply, if it has one. -/
def ReplyCheck.pattern? : ReplyCheck → Option Pattern
  | .pattern p => some p
  | .contains _ _ | .between _ _ => none

/-- The pattern from which a step captures, if it has one. -/
def Step.pattern? : Step → Option Pattern
  | .execute execution => execution.expect.pattern?
  | .compare comparison => comparison.check.pattern?
  | .pause _ | .print _ | .checkVariable _ | .send _ | .invalid _ => none

/-- The text that a step takes values from. -/
inductive Step.Reads (tools : Tools) (r : Rig) : Step → String → Prop where
  /-- The result of its call. -/
  | result {x : Execution} {f : Function} {text : String} :
      tools.functions.get? x.function = some f → (f r.trace x.arguments).result = .ok text →
      Reads tools r (.execute x) text
  /-- The line of the reply that its pattern matches. -/
  | line {c : Comparison} {line : String} :
      (r.request c.command c.check.wait (c.check.timeout tools)).1 = .ok (.matched line) →
      Reads tools r (.compare c) line

/-- What a step may do to the variables: nothing, or it succeeds and captures from the text that it
reads. -/
inductive Step.Sets (tools : Tools) (r : Rig) (s : Step) : Except StepError Flow × Rig → Prop where
  /-- The variables are as before. -/
  | nothing {result : Except StepError Flow} {after : Rig} : after.bindings = r.bindings →
      Sets tools r s (result, after)
  /-- The step captures. -/
  | captured {p : Pattern} {text : String} {after : Rig} : s.pattern? = some p →
      s.Reads tools r text → r.bindings.Captures p text after.bindings →
      Sets tools r s (.ok .proceed, after)

/-- A call captures from its result. -/
theorem Execution.sets_run (tools : Tools) (x : Execution) (r : Rig) :
    (Step.execute x).Sets tools r (x.run tools r) := by
  unfold run
  split
  · exact .nothing rfl
  · rename_i f hf
    simp only
    split
    · exact .nothing rfl
    · rename_i text htext
      unfold Expectation.checkCapturing
      -- A result that is not the expected one leaves the variables alone.
      cases hcapture : x.expect.capture? text r.bindings with
      | none => exact .nothing rfl
      | some bindings =>
        cases hexpect : x.expect with
        | exact expected =>
          rw [hexpect, Expectation.capture?] at hcapture
          split at hcapture
          · cases hcapture
            exact .nothing rfl
          · cases hcapture
        | pattern p =>
          rw [hexpect] at hcapture
          exact .captured (by rw [Step.pattern?, hexpect]; rfl) (.result hf htext)
            (Variables.captures_of_capture? hcapture)

/-- A check of a reply captures from the line that its pattern matches, or changes nothing. -/
theorem ReplyCheck.capture_cases (found : Reply.Resolved) (v : Variables) (check : ReplyCheck) :
    check.capture found v = v ∨ ∃ p line, check.pattern? = some p ∧ found = .matched line ∧
      v.Captures p line (check.capture found v) := by
  cases check with
  | contains count expected => exact .inl rfl
  | between low high => exact .inl rfl
  | pattern p =>
    cases found with
    | lines lines => exact .inl rfl
    | matched line =>
      rw [capture]
      cases hcapture : v.capture? p line with
      | none => exact .inl rfl
      | some v' => exact .inr ⟨p, line, rfl, rfl, Variables.captures_of_capture? hcapture⟩

/-- A comparison captures from the line that its pattern matches. -/
theorem Comparison.sets_run (tools : Tools) (c : Comparison) (r : Rig) :
    (Step.compare c).Sets tools r (c.run tools r) := by
  have hbindings : (r.request c.command c.check.wait (c.check.timeout tools)).2.bindings =
      r.bindings := rfl
  unfold run
  simp only
  split
  · exact .nothing hbindings
  · rename_i found hfound
    rcases c.check.accept_cases found.toLines with haccept | ⟨expected, actual, haccept⟩
    · rw [haccept]
      rcases c.check.capture_cases found r.bindings with hsame | ⟨p, line, hp, rfl, hcaptures⟩
      · exact .nothing hsame
      · exact .captured hp (.line hfound) hcaptures
    · rw [haccept]
      exact .nothing hbindings

/-- A comparison leaves the link as its request does. -/
theorem Comparison.link_run (tools : Tools) (c : Comparison) (r : Rig) :
    (c.run tools r).2.link = (r.request c.command c.check.wait (c.check.timeout tools)).2.link := by
  unfold run
  simp only
  split
  · rfl
  · split <;> rfl

/-- A step sets variables only if it has a pattern. -/
theorem Step.sets_run (tools : Tools) (s : Step) (r : Rig) : s.Sets tools r (s.run tools r) := by
  cases s with
  | pause text => exact .nothing rfl
  | print text => exact .nothing rfl
  | execute x => exact x.sets_run tools r
  | compare c => exact c.sets_run tools r
  | checkVariable check => exact .nothing rfl
  | invalid raw => exact .nothing rfl
  | send line =>
    simp only [run]
    split
    · exact .nothing rfl
    · exact .nothing rfl

namespace Engine

/-- What running the entry at the cursor may do to the variables: nothing, or its step succeeds and
captures from the text that it reads. -/
inductive Sets (tools : Tools) (e : Engine) (r : Rig) : Advance × Engine × Rig → Prop where
  /-- The variables are as before. -/
  | nothing {result : Advance × Engine × Rig} : result.2.2.bindings = r.bindings →
      Sets tools e r result
  /-- The step captures. -/
  | captured {step : Step} {p : Pattern} {text : String} {e' : Engine} {after : Rig} :
      e.step? r = some step → step.pattern? = some p → step.Reads tools (e.trying r) text →
      r.bindings.Captures p text after.bindings →
      after.link = (step.run tools (e.trying r)).2.link → Sets tools e r (.next, e', after)

/-- Telling the operator how a step ends changes neither a variable nor the link. -/
theorem conclude_keeps (tools : Tools) (isCheck : Bool) (e : Engine)
    (x : Except StepError Flow × Rig) :
    (e.conclude tools isCheck x).2.2.bindings = x.2.bindings ∧
      (e.conclude tools isCheck x).2.2.link = x.2.link := by
  obtain ⟨result, after⟩ := x
  cases result with
  | error error => cases hloss : error.isLoss <;> simp [conclude, fail, hloss, Rig.showLine]
  | ok flow => cases isCheck <;> cases flow <;> exact ⟨rfl, rfl⟩

/-- Running an entry sets variables only if its step has a pattern and succeeds. -/
theorem sets_runNext (tools : Tools) (e : Engine) (r : Rig) :
    e.Sets tools r (e.runNext tools r) := by
  rw [runNext_eq]
  cases hentry : e.entries[e.cursor]? with
  | none => exact .nothing rfl
  | some entry =>
    simp only
    rw [← trying]
    cases hread : e.step entry r.bindings with
    | error error => exact .nothing (e.conclude_keeps tools false (.error error, e.trying r)).1
    | ok step =>
      have hstep : e.step? r = some step := by
        rw [step?, current?, hentry, Option.map_some, hread]
        rfl
      have hsets := step.sets_run tools (e.trying r)
      obtain ⟨hbindings, hlink⟩ :=
        e.conclude_keeps tools step.isCheck (step.run tools (e.trying r))
      simp only
      -- Only the step itself touches the variables and the link.
      cases hrun : step.run tools (e.trying r) with
      | mk result after =>
        rw [hrun] at hsets hbindings hlink
        cases hsets with
        | nothing hsame => exact .nothing (hbindings.trans hsame)
        | captured hp hreads hcaptures =>
          refine .captured hstep hp hreads ?_ (hlink.trans (congrArg (·.2.link) hrun.symm))
          rwa [← hbindings] at hcaptures

/-- A step without a pattern changes no variable, and neither does an entry that is no step. -/
theorem bindings_runNext_of_no_pattern {tools : Tools} {e : Engine} {r : Rig}
    (h : (e.step? r).bind Step.pattern? = none) :
    (e.runNext tools r).2.2.bindings = r.bindings := by
  have hsets := e.sets_runNext tools r
  generalize e.runNext tools r = result at hsets
  cases hsets with
  | nothing hsame => exact hsame
  | captured hstep hp _ _ _ =>
    rw [hstep, Option.bind_some, hp] at h
    cases h

end Engine

/-! ### The lines of a link -/

namespace Reply

/-- A line has become whole between two moments of a stream: it is one of the whole lines of the
transcript then that were not whole before. -/
def Stream.Fresh (before after : Stream) (line : String) : Prop :=
  ∃ fresh, wholeLines after.transcript = wholeLines before.transcript ++ fresh ∧ line ∈ fresh

namespace Stream

variable {before s after : Stream} {line more : String}

/-- A line that has become whole stays whole while the transcript grows. -/
theorem Fresh.grow (h : Fresh before s line) (hmore : after.transcript = s.transcript ++ more) :
    Fresh before after line := by
  obtain ⟨fresh, hfresh, hmem⟩ := h
  refine ⟨fresh ++ wholeLines (unfinished s.transcript ++ more), ?_, List.mem_append_left _ hmem⟩
  rw [hmore, wholeLines_append, hfresh, List.append_assoc]

/-- A wait that finds what it is for finds it in the queue. -/
theorem resolve?_awaitFrom {wait : Wait} {found : Resolved} (deadline : Nat)
    (arrivals : List (Nat × Arrival)) (now : Nat) (s : Stream)
    (h : (awaitFrom wait deadline arrivals now s).1 = .resolved found) :
    wait.resolve? (awaitFrom wait deadline arrivals now s).2.2.lines = some found := by
  induction arrivals generalizing now s with
  | nil =>
    rw [awaitFrom] at h ⊢
    cases hresolve : wait.resolve? s.lines with
    | some found' =>
      rw [hresolve] at h
      cases h
      exact hresolve
    | none =>
      simp only [hresolve] at h
      split_ifs at h
  | cons arrival rest ih =>
    obtain ⟨time, a⟩ := arrival
    rw [awaitFrom] at h ⊢
    -- The queue is looked at before the next arrival is taken.
    cases hresolve : wait.resolve? s.lines with
    | some found' =>
      rw [hresolve] at h
      cases h
      exact hresolve
    | none =>
      simp only [hresolve] at h ⊢
      split_ifs at h ⊢
      exact ih _ _ h

end Stream

/-- A matching line is among those that were looked at. -/
theorem Wait.mem_of_resolve? {wait : Wait} {lines : List String} {line : String}
    (h : wait.resolve? lines = some (.matched line)) : line ∈ lines := by
  cases wait with
  | count n =>
    rw [resolve?] at h
    split at h <;> cases h
  | pattern p =>
    obtain ⟨found, hfound, heq⟩ := Option.map_eq_some_iff.1 h
    cases heq
    exact List.mem_of_find?_eq_some hfound

/-- A line that a wait finds, on a stream that has just been armed, becomes whole in it. -/
theorem Stream.fresh_of_await {sent : Inbox} {taken : List (Nat × Arrival)} {now : Nat} {s : Stream}
    (hfollows : s.Follows sent taken now) (harmed : s.armed = true) (hlines : s.lines = [])
    {wait : Wait} {timeout : Nat} {line : String}
    (h : (s.await wait timeout now).1 = .resolved (.matched line)) :
    s.Fresh (s.await wait timeout now).2.2 line := by
  obtain ⟨since, hsince⟩ := takes_awaitFrom wait (now + timeout) s.inbox.arrivals now s
  rw [withArrivals_self] at hsince
  have hqueue := Wait.mem_of_resolve? (resolve?_awaitFrom (now + timeout) s.inbox.arrivals now s h)
  -- The queue was empty, so that what is in it has become whole.
  rw [hsince.lines_eq, if_pos harmed, hlines, List.nil_append] at hqueue
  refine ⟨_, ?_, hqueue⟩
  have htranscript : (s.await wait timeout now).2.2.transcript = textOf (taken ++ since) := by
    rw [textOf_append, ← hfollows.transcript]
    exact hsince.transcript_eq
  rw [htranscript, hfollows.wholeLines_append, hfollows.transcript]

end Reply

namespace Link

open Reply

/-- What a request gives is what the wait on its stream gives. -/
theorem await_of_request {l : Link} {t : Trace} {command : String} {wait : Wait} {timeout : Nat}
    {emissions : List Emission} {found : Resolved}
    (hrespond : l.device.respond t (octets command) = .ok emissions)
    (h : (l.request command wait timeout t).1 = .ok found) :
    ((l.listening t.now emissions).await wait timeout t.now).1 = .resolved found := by
  rw [request_of_respond hrespond] at h
  simp only at h
  -- A wait that is cut off or runs out of time gives an error.
  cases houtcome : ((l.listening t.now emissions).await wait timeout t.now).1 with
  | resolved found' =>
    rw [houtcome] at h
    cases h
    rfl
  | closed =>
    rw [houtcome] at h
    cases h
  | timeout =>
    rw [houtcome] at h
    cases h

/-- A line that a request finds has become whole since the wait for it was armed. -/
theorem fresh_of_request {l : Link} {t : Trace} {sent : Inbox} {taken : List (Nat × Arrival)}
    (hfollows : l.replies.Follows sent taken t.now) {command line : String} {wait : Wait}
    {timeout : Nat} (h : (l.request command wait timeout t).1 = .ok (.matched line)) :
    (l.replies.arm t.now).Fresh (l.request command wait timeout t).2.2.replies line := by
  cases hrespond : l.device.respond t (octets command) with
  | error failure =>
    rw [request_of_refused hrespond] at h
    cases h
  | ok emissions =>
    have hresolved := await_of_request hrespond h
    rw [request_of_respond hrespond]
    simp only
    -- Arming drains what has come so far and empties the queue; what the device answers lies in the
    -- inbox then.
    obtain ⟨drained, hdrained⟩ := l.replies.takes_drain t.now
    have hlistening : (l.listening t.now emissions).Follows _ (taken ++ drained) t.now :=
      follows_emit (l := { l with replies := l.replies.arm t.now })
        ((hfollows.takes hdrained (Nat.le_refl _)).withQueue [] true) emissions
    have heq : l.listening t.now emissions =
        { l.replies.arm t.now with inbox := (l.listening t.now emissions).inbox } := by
      rw [listening, emit_eq]
    have hfresh := Stream.fresh_of_await hlistening (by rw [heq]; rfl) (by rw [heq]; rfl) hresolved
    have htranscript : (l.listening t.now emissions).transcript =
        (l.replies.arm t.now).transcript := by rw [heq]
    rwa [Stream.Fresh, htranscript] at hfresh

end Link

/-! ### The transcript of a link -/

/-- What the device sends is not in the transcript before it is taken. -/
theorem Link.transcript_emit (now : Nat) (emissions : List Emission) (l : Link) :
    (l.emit now emissions).replies.transcript = l.replies.transcript := by
  rw [emit_eq]

/-- A request adds to the transcript. -/
theorem Link.transcript_request (command : String) (wait : Reply.Wait) (timeout : Nat) (t : Trace)
    (l : Link) : ∃ more, (l.request command wait timeout t).2.2.replies.transcript =
      l.replies.transcript ++ more := by
  -- Arming takes what has come so far, and the wait what comes in its time.
  obtain ⟨drained, hdrained⟩ := l.replies.takes_drain t.now
  have harmed : (l.replies.arm t.now).transcript =
      l.replies.transcript ++ Reply.textOf drained := hdrained.transcript_eq
  cases hrespond : l.device.respond t (octets command) with
  | error failure =>
    rw [request_of_refused hrespond]
    exact ⟨_, harmed⟩
  | ok emissions =>
    rw [request_of_respond hrespond]
    obtain ⟨since, hsince⟩ := Reply.Stream.takes_awaitFrom wait (t.now + timeout)
      (l.listening t.now emissions).inbox.arrivals t.now (l.listening t.now emissions)
    have hawait : ((l.listening t.now emissions).await wait timeout t.now).2.2.transcript =
        (l.listening t.now emissions).transcript ++ Reply.textOf since := hsince.transcript_eq
    have hlistening : (l.listening t.now emissions).transcript =
        (l.replies.arm t.now).transcript := transcript_emit _ _ _
    exact ⟨_, by rw [hawait, hlistening, harmed, String.append_assoc]⟩

/-- What the transcript of a link starts with it starts with for good, whatever a step does. -/
theorem Rig.transcript_bisimulation (tools : Tools) (start : String) :
    Bisimulation tools tools fun r r' =>
      r' = r ∧ ∃ more, r.link.replies.transcript = start ++ more where
  patternTimeout := rfl
  countTimeout := rfl
  wording := rfl
  bindings := by
    rintro r _ ⟨rfl, -⟩
    rfl
  withBindings bindings := by
    rintro ⟨rfl, hmore⟩
    exact ⟨rfl, hmore⟩
  record effect := by
    rintro ⟨rfl, hmore⟩
    exact ⟨rfl, hmore⟩
  pass time := by
    rintro ⟨rfl, hmore⟩
    exact ⟨rfl, hmore⟩
  call name arguments := by
    rintro ⟨rfl, -⟩
    rfl
  send {_ r} line := by
    rintro ⟨rfl, hmore⟩
    refine ⟨rfl, rfl, ?_⟩
    rw [Step.run, Link.send]
    cases r.link.device.respond r.trace (Link.octets line) with
    | error failure => exact hmore
    | ok emissions =>
      simp only
      rwa [Link.transcript_emit]
  request {_ r} command wait timeout := by
    rintro ⟨rfl, more, hmore⟩
    refine ⟨rfl, rfl, ?_⟩
    obtain ⟨added, hadded⟩ := r.link.transcript_request command wait timeout r.trace
    exact ⟨more ++ added, by rw [← String.append_assoc, ← hmore]; exact hadded⟩

/-- Running an entry adds to the transcript of the link. -/
theorem Engine.transcript_runNext (tools : Tools) (e : Engine) (r : Rig) : ∃ more,
    (e.runNext tools r).2.2.link.replies.transcript = r.link.replies.transcript ++ more :=
  ((Rig.transcript_bisimulation tools r.link.replies.transcript).runNext
    ⟨rfl, "", String.append_empty.symm⟩ e).rig.2

end BringUp
