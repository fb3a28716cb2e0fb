import BringUp.Proofs.Engine.Atomicity
import BringUp.Proofs.Engine.Bisimulation
import BringUp.Proofs.Step.Kind

/-!
# What an entry does to the device and to the operator

Running the entry at the cursor adds effects to the trace. They come on three channels: octets on
the wire to the device, calls of functions, and lines shown to the operator. What comes on each of
them is told by the step at the cursor and by how it ends, and over any number of entries the
operator sees one report of success for each check that the cursor passes.

* `Step.doings`: what a step does by itself.
* `Engine.Accounts`: what running an entry puts on each channel.
* `Engine.sumCalls_count_success`: the reports of success over any number of calls.
* `Engine.effects_accounted`: all of this for every engine and rig.
-/

namespace BringUp

namespace Effect

/-- What an effect puts on the wire. -/
def onWire? : Effect → Option (List UInt8)
  | .wrote octets => some octets
  | _ => none

/-- The call that an effect is: the function, the arguments, and what it gives unless it fails. -/
def call? : Effect → Option (String × List String × Option String)
  | .called function arguments result => some (function, arguments, result)
  | _ => none

/-- A call as an effect. -/
def ofCall : String × List String × Option String → Effect
  | (function, arguments, result) => .called function arguments result

/-- The line that an effect shows to the operator. -/
def shown? : Effect → Option String
  | .shown line => some line
  | _ => none

end Effect

/-- A result is there exactly if it was computed. -/
theorem toOption_eq_some_iff {ε α : Type} {x : Except ε α} {a : α} :
    x.toOption = some a ↔ x = .ok a := by
  cases x <;> simp [Except.toOption]

/-! ### Reading the step at the cursor -/

namespace Step

variable {raw line : String} {v : Variables} {s : Step}

/-- A step that writes a line writes the whole of its own line, with the references replaced. -/
theorem ofLine_eq_send_iff : ofLine raw v = .ok (.send line) ↔
    StepKind.ofLine raw.toList = .send ∧ line = v.substitute raw := by
  constructor
  · intro h
    have hkind : StepKind.ofLine raw.toList = .send := (kind_of_ofLine h).symm
    refine ⟨hkind, ?_⟩
    rw [ofLine, hkind] at h
    simpa [StepKind.substitutes, StepKind.mark, read] using h.symm
  · rintro ⟨hkind, rfl⟩
    simp [ofLine, hkind, StepKind.substitutes, StepKind.mark, read]

/-- A comparison is read from its line behind the mark, with the references replaced. -/
theorem ofLine_eq_compare_iff {c : Comparison} : ofLine raw v = .ok (.compare c) ↔
    StepKind.ofLine raw.toList = .compare ∧
      Comparison.read (String.ofList ((v.substitute raw).toList.drop 1)) = .ok c := by
  have hread (body : String) :
      read body .compare = .ok (.compare c) ↔ Comparison.read body = .ok c := by
    rw [read]
    cases Comparison.read body with
    | error error => simp [Except.map]
    | ok c' => simp [Except.map]
  constructor
  · intro h
    have hkind : StepKind.ofLine raw.toList = .compare := (kind_of_ofLine h).symm
    rw [ofLine, hkind] at h
    exact ⟨hkind, (hread _).1 h⟩
  · rintro ⟨hkind, hcomparison⟩
    rw [ofLine, hkind]
    exact (hread _).2 hcomparison

end Step

/-! ### What a step does -/

/-- Whether the device takes a line that is written now. -/
def Rig.accepts (r : Rig) (line : String) : Bool :=
  (r.link.device.respond r.trace (Link.octets line)).toBool

namespace Step

/-- The lines that a step writes: the one that it has to write, unless the device refuses it. -/
def lines (r : Rig) (s : Step) : List String := s.written?.toList.filter r.accepts

/-- The calls that a step makes: one, if it is to call a function and the function is registered. -/
def calls (tools : Tools) (r : Rig) : Step → List (String × List String × Option String)
  | .execute x =>
    match tools.functions.get? x.function with
    | some f => [(x.function, x.arguments, (f r.trace x.arguments).result.toOption)]
    | none => []
  | _ => []

/-- The texts that a step is to show. -/
def texts : Step → List String
  | .print text => [text]
  | .pause text => [text ++ " then press any key to continue"]
  | _ => []

/-- What a step does, before the operator is told of its end. -/
def doings (tools : Tools) (r : Rig) (s : Step) : List Effect :=
  s.texts.map .shown ++ (s.calls tools r).map .ofCall ++
    (s.lines r).map fun line => .wrote (Link.octets line)

end Step

/-- What the operator is told of the end of a step. -/
def Advance.verdict (wording : PatternError.Wording) (isCheck : Bool) : Advance → List String
  | .next | .pause => if isCheck then ["\tSUCCESS"] else []
  | .failed error => ["\tFAIL: " ++ error.message wording]
  | .exhausted | .transportClosed => []

/-- A request writes its command unless the device refuses it, and does nothing else. -/
theorem Rig.effects_request (command : String) (wait : Reply.Wait) (timeout : Nat) (r : Rig) :
    (r.request command wait timeout).2.trace.effects = r.trace.effects ++
      ([command].filter r.accepts).map fun line => .wrote (Link.octets line) := by
  rw [request]
  cases hrespond : r.link.device.respond r.trace (Link.octets command) with
  | error failure => simp [Link.request_of_refused hrespond, accepts, hrespond, Except.toBool]
  | ok emissions => simp [Link.request_of_respond hrespond, accepts, hrespond, Except.toBool]

/-- What a step does is in the trace. -/
theorem Step.effects_run (tools : Tools) (s : Step) (r : Rig) :
    (s.run tools r).2.trace.effects = r.trace.effects ++ s.doings tools r := by
  cases s with
  | pause text => simp [run, Rig.showLine, doings, texts, calls, lines, written?]
  | print text => simp [run, Rig.showLine, doings, texts, calls, lines, written?]
  | checkVariable check => simp [run, doings, texts, calls, lines, written?]
  | invalid raw => simp [run, doings, texts, calls, lines, written?]
  | send line =>
    have hdoings : (send line).doings tools r =
        ([line].filter r.accepts).map fun line => .wrote (Link.octets line) := rfl
    rw [hdoings, run, Link.send]
    cases hrespond : r.link.device.respond r.trace (Link.octets line) with
    | error failure => simp [Rig.accepts, hrespond, Except.toBool]
    | ok emissions => simp [Rig.accepts, hrespond, Except.toBool]
  | compare c =>
    have hrequest := r.effects_request c.command c.check.wait (c.check.timeout tools)
    have hrun : ((compare c).run tools r).2.trace =
        (r.request c.command c.check.wait (c.check.timeout tools)).2.trace := by
      simp only [run, Comparison.run]
      split
      · rfl
      · split
        · rfl
        · rfl
    rw [hrun, hrequest]
    rfl
  | execute x =>
    simp only [run, Execution.run, Rig.call, doings, texts, calls, lines, written?]
    cases tools.functions.get? x.function with
    | none => simp
    | some f =>
      simp only
      cases (f r.trace x.arguments).result with
      | error failure => simp [Effect.ofCall]
      | ok result =>
        simp only
        cases x.expect.checkCapturing result r.bindings with
        | error error => simp [Effect.ofCall]
        | ok bindings => simp [Effect.ofCall]

namespace Step

variable (tools : Tools) (r : Rig) (s : Step)

theorem onWire_doings :
    (s.doings tools r).filterMap Effect.onWire? = (s.lines r).map Link.octets := by
  have hother : (s.texts.map Effect.shown ++ (s.calls tools r).map Effect.ofCall).filterMap
      Effect.onWire? = [] := by
    simp [Effect.onWire?, Effect.ofCall]
  rw [doings, List.filterMap_append, hother, List.nil_append, List.filterMap_map]
  exact congrFun List.filterMap_eq_map (s.lines r)

theorem call_doings : (s.doings tools r).filterMap Effect.call? = s.calls tools r := by
  have htexts : (s.texts.map .shown).filterMap Effect.call? = [] := by simp [Effect.call?]
  have hlines : ((s.lines r).map fun line => .wrote (Link.octets line)).filterMap
      Effect.call? = [] := by
    simp [Effect.call?]
  rw [doings, List.filterMap_append, List.filterMap_append, htexts, hlines, List.filterMap_map,
    List.nil_append, List.append_nil]
  exact List.filterMap_some

theorem shown_doings : (s.doings tools r).filterMap Effect.shown? = s.texts := by
  have hother : ((s.calls tools r).map Effect.ofCall ++
      (s.lines r).map fun line => Effect.wrote (Link.octets line)).filterMap
        Effect.shown? = [] := by
    simp [Effect.shown?, Effect.ofCall]
  rw [doings, List.append_assoc, List.filterMap_append, hother, List.append_nil,
    List.filterMap_map]
  exact List.filterMap_some

end Step

/-! ### What running an entry does -/

namespace Engine

variable (tools : Tools) (e : Engine) (r : Rig)

/-- The line of the entry at the cursor, as it stands in the sequence. -/
def raw? : Option String := e.entries[e.cursor]?.bind fun entry => (e.line entry).toOption

/-- The step at the cursor, if there is one and its line can be read. -/
def step? : Option Step := (e.current? r).bind Except.toOption

/-- The effects that running the entry at the cursor adds to the trace. -/
def newEffects : List Effect :=
  (e.runNext tools r).2.2.trace.effects.drop r.trace.effects.length

/-- The texts that the entry at the cursor is to show. -/
def texts : List String := (e.step? r).elim [] Step.texts

/-- The lines that running the entry at the cursor shows to the operator. -/
def shownLines : List String := (e.newEffects tools r).filterMap Effect.shown?

/-- What running the entry at the cursor puts on each channel, by the step there and by how it
ends. If the entry cannot be read, there is no step. -/
structure Accounts (tools : Tools) (e : Engine) (r : Rig) : Prop where
  /-- The effects are added to those before. -/
  effects : (e.runNext tools r).2.2.trace.effects = r.trace.effects ++ e.newEffects tools r
  /-- The device gets the octets of the line that the step writes, and of its end. -/
  wire : (e.newEffects tools r).filterMap Effect.onWire? =
    (e.step? r).elim [] fun step =>
      (step.lines (e.trying r)).map fun line => Text.Utf8.encode (line ++ lineEnd)
  /-- The functions are called that the step calls. -/
  calls : (e.newEffects tools r).filterMap Effect.call? =
    (e.step? r).elim [] fun step => step.calls tools (e.trying r)
  /-- The operator sees the texts of the step, and is then told of its end. -/
  shown : e.shownLines tools r =
    e.texts r ++ (e.runNext tools r).1.verdict tools.wording ((e.step? r).any Step.isCheck)

variable {tools e r}

/-- The line at the cursor is that of the entry there. -/
theorem raw?_eq_some_iff {raw : String} : e.raw? = some raw ↔
    ∃ entry, e.entries[e.cursor]? = some entry ∧ e.line entry = .ok raw := by
  rw [raw?, Option.bind_eq_some_iff]
  simp only [toOption_eq_some_iff]

/-- The step at the cursor is read from the line there. -/
theorem step?_eq (e : Engine) (r : Rig) :
    e.step? r = e.raw?.bind fun raw => (Step.ofLine raw r.bindings).toOption := by
  unfold step? raw? current? step
  cases e.entries[e.cursor]? with
  | none => rfl
  | some entry =>
    simp only [Option.map_some, Option.bind_some]
    cases e.line entry with
    | error error => rfl
    | ok raw => rfl

/-- The step at the cursor is one that a line gives. -/
theorem step?_eq_some_iff {s : Step} : e.step? r = some s ↔
    ∃ raw, e.raw? = some raw ∧ Step.ofLine raw r.bindings = .ok s := by
  rw [step?_eq, Option.bind_eq_some_iff]
  simp only [toOption_eq_some_iff]

/-- Running the entry at the cursor succeeds if the step that its line gives does. -/
theorem succeeds_runNext_iff {raw : String} {s : Step} (hraw : e.raw? = some raw)
    (hstep : Step.ofLine raw r.bindings = .ok s) :
    (e.runNext tools r).1.Succeeds ↔ ∃ flow, (s.run tools (e.trying r)).1 = .ok flow := by
  obtain ⟨entry, hentry, hline⟩ := raw?_eq_some_iff.1 hraw
  have hcurrent : e.current? r = some (.ok s) := by
    rw [current?, hentry, Option.map_some, step, hline]
    exact congrArg some hstep
  rw [advance_runNext, Advance.succeeds_ofAttempt_iff, attempt?, hcurrent]
  simp [Except.bind]

/-- The operator is told of a failure, unless the connection is lost. -/
theorem effects_fail (tools : Tools) (error : StepError) (isCheck : Bool) (e : Engine) (r : Rig) :
    (e.fail tools error r).2.2.trace.effects = r.trace.effects ++
      ((e.fail tools error r).1.verdict tools.wording isCheck).map .shown := by
  unfold fail
  cases error.isLoss with
  | true => simp [Advance.verdict]
  | false => simp [Advance.verdict, Rig.showLine]

/-- The operator is told how a step ends. -/
theorem effects_conclude (tools : Tools) (isCheck : Bool) (e : Engine)
    (x : Except StepError Flow × Rig) :
    (e.conclude tools isCheck x).2.2.trace.effects = x.2.trace.effects ++
      ((e.conclude tools isCheck x).1.verdict tools.wording isCheck).map .shown := by
  obtain ⟨result, after⟩ := x
  cases result with
  | error error => exact effects_fail tools error isCheck e after
  | ok flow =>
    cases flow with
    | proceed => cases isCheck <;> simp [conclude, succeed, Advance.verdict, Rig.showLine]
    | pause => cases isCheck <;> simp [conclude, succeed, Advance.verdict, Rig.showLine]

/-- Running the entry at the cursor does what its step does and tells the operator how it ends. -/
theorem effects_runNext (tools : Tools) (e : Engine) (r : Rig) :
    (e.runNext tools r).2.2.trace.effects = r.trace.effects ++
      ((e.current? r).toList.map (fun _ => .tried e.cursor) ++
        (e.step? r).elim [] (Step.doings tools (e.trying r)) ++
        ((e.runNext tools r).1.verdict tools.wording ((e.step? r).any Step.isCheck)).map
          .shown) := by
  have htrying : (e.trying r).trace.effects = r.trace.effects ++ [.tried e.cursor] :=
    r.trace.effects_record _
  rw [runNext_eq]
  unfold step? current?
  cases e.entries[e.cursor]? with
  | none => simp [Advance.verdict]
  | some entry =>
    simp only [Option.map_some, Option.bind_some]
    cases e.step entry r.bindings with
    | error error =>
      refine (effects_fail tools error false e _).trans ?_
      rw [← trying, htrying]
      simp [Except.toOption, trying]
    | ok step =>
      refine (effects_conclude tools step.isCheck e _).trans ?_
      rw [← trying, step.effects_run, htrying]
      simp [Except.toOption]

/-- What is added are the effects behind those before. -/
theorem newEffects_eq {new : List Effect}
    (h : (e.runNext tools r).2.2.trace.effects = r.trace.effects ++ new) :
    e.newEffects tools r = new := by
  rw [newEffects, h, List.drop_left]

/-- What comes on a channel, unless it tells of attempts: what the step puts there, and then what
the operator is told of its end. -/
theorem filterMap_newEffects {α : Type} {channel : Effect → Option α}
    (htried : ∀ index, channel (.tried index) = none) :
    (e.newEffects tools r).filterMap channel =
      (e.step? r).elim [] (fun step => (step.doings tools (e.trying r)).filterMap channel) ++
        ((e.runNext tools r).1.verdict tools.wording ((e.step? r).any Step.isCheck)).filterMap
          (channel ∘ .shown) := by
  have hnone (reading : List (Except StepError Step)) :
      (reading.map fun _ => Effect.tried e.cursor).filterMap channel = [] := by
    simp [htried]
  rw [newEffects_eq (e.effects_runNext tools r), List.filterMap_append, List.filterMap_append,
    hnone, List.filterMap_map, List.nil_append]
  cases e.step? r with
  | none => rfl
  | some step => rfl

/-- Running the entry at the cursor keeps to its account. -/
theorem accounts (tools : Tools) (e : Engine) (r : Rig) : e.Accounts tools r where
  effects := by
    have heffects := e.effects_runNext tools r
    rw [newEffects_eq heffects, heffects]
  wire := by
    have hoctets : (fun line => Text.Utf8.encode (line ++ lineEnd)) = Link.octets := rfl
    rw [filterMap_newEffects fun _ => rfl, hoctets]
    simp [Function.comp_def, Effect.onWire?, Step.onWire_doings]
  calls := by
    rw [filterMap_newEffects fun _ => rfl]
    simp [Function.comp_def, Effect.call?, Step.call_doings]
  shown := by
    rw [shownLines, filterMap_newEffects fun _ => rfl]
    simp [Function.comp_def, Effect.shown?, Step.shown_doings, texts]

/-! ### Reports of success -/

/-- What the operator is told when a check succeeds. -/
def success : String := "\tSUCCESS"

/-- Whether an entry is a check, by the mark of its line. -/
def checks (e : Engine) (entry : Script.Entry) : Bool :=
  (e.line entry).toOption.any fun raw => (StepKind.ofLine raw.toList).isCheck

/-- The number of checks before some place of the sequence. -/
def checksBefore (e : Engine) (place : Nat) : Nat := (e.entries.take place).countP e.checks

/-- The sum of something over some calls, each with tools and on a rig of its own. -/
def sumCalls (f : Tools → Engine → Rig → Nat) : List (Tools × Rig) → Engine → Nat
  | [], _ => 0
  | call :: calls, e => f call.1 e call.2 + sumCalls f calls (e.runNext call.1 call.2).2.1

/-- The operator is told that a step succeeded if the step is a check. -/
theorem count_verdict_of_succeeds {advance : Advance} (h : advance.Succeeds)
    (wording : PatternError.Wording) (isCheck : Bool) :
    (advance.verdict wording isCheck).count success = isCheck.toNat := by
  have hcount : (if isCheck then [success] else []).count success = isCheck.toNat := by
    cases isCheck with
    | true => exact List.count_singleton_self
    | false => rfl
  cases advance with
  | next => exact hcount
  | pause => exact hcount
  | exhausted => exact h.elim
  | failed error => exact h.elim
  | transportClosed => exact h.elim

/-- No other end of a step is told as a success. -/
theorem count_verdict_of_not_succeeds {advance : Advance} (h : ¬ advance.Succeeds)
    (wording : PatternError.Wording) (isCheck : Bool) :
    (advance.verdict wording isCheck).count success = 0 := by
  cases advance with
  | next => exact absurd trivial h
  | pause => exact absurd trivial h
  | exhausted => rfl
  | transportClosed => rfl
  | failed error =>
    refine List.count_eq_zero.2 fun hmem => ?_
    have htold : success = "\tFAIL: " ++ error.message wording := List.mem_singleton.1 hmem
    have hsecond := congrArg (fun line => line.toList[1]?) htold
    simp [success] at hsecond

/-- Unless the step succeeds the cursor stays. -/
theorem Ran.engine_eq_of_not_succeeds {result : Advance × Engine × Rig} (h : Ran e r result)
    (hend : ¬ result.1.Succeeds) : result.2.1 = e := by
  cases h with
  | exhausted _ => rfl
  | failed _ _ _ => rfl
  | lost _ _ _ => rfl
  | succeeded _ hadvance _ => rcases hadvance with rfl | rfl <;> exact absurd trivial hend

/-- A step that is read is a check if its entry is one. -/
theorem isCheck_step {entry : Script.Entry} {v : Variables} {s : Step}
    (h : e.step entry v = .ok s) : s.isCheck = e.checks entry := by
  unfold step at h
  unfold checks
  cases hline : e.line entry with
  | error error =>
    rw [hline] at h
    cases h
  | ok raw =>
    rw [hline] at h
    rw [Step.isCheck, Step.kind_of_ofLine h]
    rfl

/-- A step that succeeds is one of the entry at the cursor. -/
theorem step?_of_succeeds (h : (e.runNext tools r).1.Succeeds) :
    ∃ entry step, e.entries[e.cursor]? = some entry ∧ e.step entry r.bindings = .ok step ∧
      e.step? r = some step := by
  rw [advance_runNext, Advance.succeeds_ofAttempt_iff, attempt?, current?] at h
  obtain ⟨flow, hattempt⟩ := h
  obtain ⟨reading, hreading, hok⟩ := Option.map_eq_some_iff.1 hattempt
  obtain ⟨entry, hentry, rfl⟩ := Option.map_eq_some_iff.1 hreading
  cases hstep : e.step entry r.bindings with
  | error error =>
    rw [hstep] at hok
    cases hok
  | ok step =>
    refine ⟨entry, step, hentry, hstep, ?_⟩
    rw [step?, current?, hentry, Option.map_some, hstep]
    rfl

/-- Behind an entry there is one check more if the entry is one. -/
theorem checksBefore_succ {entry : Script.Entry} (h : e.entries[e.cursor]? = some entry) :
    e.checksBefore (e.cursor + 1) = e.checksBefore e.cursor + (e.checks entry).toNat := by
  rw [checksBefore, List.take_add_one, h, List.countP_append, ← checksBefore]
  cases hcheck : e.checks entry with
  | true => simp [hcheck]
  | false => simp [hcheck]

/-- One call: a check that the cursor passes is reported once, beside the texts that are shown. -/
theorem count_success_runNext (tools : Tools) (e : Engine) (r : Rig) :
    (e.shownLines tools r).count success + e.checksBefore e.cursor =
      (e.texts r).count success + e.checksBefore (e.runNext tools r).2.1.cursor := by
  have hran := e.ran_runNext tools r
  rw [(e.accounts tools r).shown, List.count_append]
  by_cases hend : (e.runNext tools r).1.Succeeds
  · obtain ⟨entry, step, hentry, hstep, hstep?⟩ := step?_of_succeeds hend
    rw [count_verdict_of_succeeds hend, hstep?, (hran.of_succeeds hend).2,
      checksBefore_succ hentry, Option.any_some, isCheck_step hstep]
    omega
  · rw [count_verdict_of_not_succeeds hend, hran.engine_eq_of_not_succeeds hend]
    omega

/-- Over any number of calls, each check that the cursor passes is reported once, beside the texts
that are shown. -/
theorem sumCalls_count_success (calls : List (Tools × Rig)) (e : Engine) :
    sumCalls (fun tools e r => (e.shownLines tools r).count success) calls e +
        e.checksBefore e.cursor =
      sumCalls (fun _ e r => (e.texts r).count success) calls e +
        e.checksBefore (e.afterCalls calls).cursor := by
  induction calls generalizing e with
  | nil => rfl
  | cons call calls ih =>
    have hone := e.count_success_runNext call.1 call.2
    have hrest := ih (e.runNext call.1 call.2).2.1
    have hafter : e.afterCalls (call :: calls) = (e.runNext call.1 call.2).2.1.afterCalls calls :=
      rfl
    -- The sequence stays the same, and so do the checks in it.
    have hsame (place : Nat) :
        (e.runNext call.1 call.2).2.1.checksBefore place = e.checksBefore place := by
      rcases (e.ran_runNext call.1 call.2).engine_eq with heq | ⟨-, heq⟩
      · rw [heq]
      · rw [heq]
        rfl
    rw [hsame, hsame] at hrest
    rw [hafter, sumCalls, sumCalls]
    omega

/-- What running the entry at the cursor does to the device and to the operator. The device gets the
line of the step there, with its references replaced, or the command of its comparison, each with a
line end; a function is called if the step is to call one that is registered; and the operator sees
the texts of a directive, the success of a check, or why the step failed. Over any number of calls
the operator sees one report of success for each check that the cursor passes. -/
theorem effects_accounted (tools : Tools) (e : Engine) (r : Rig) (calls : List (Tools × Rig)) :
    e.Accounts tools r ∧
      (∀ line, e.step? r = some (.send line) ↔ ∃ raw, e.raw? = some raw ∧
        StepKind.ofLine raw.toList = .send ∧ line = r.bindings.substitute raw) ∧
      (∀ c, e.step? r = some (.compare c) ↔ ∃ raw, e.raw? = some raw ∧
        StepKind.ofLine raw.toList = .compare ∧
          Comparison.read (String.ofList ((r.bindings.substitute raw).toList.drop 1)) = .ok c) ∧
      sumCalls (fun tools e r => (e.shownLines tools r).count success) calls e +
          e.checksBefore e.cursor =
        sumCalls (fun _ e r => (e.texts r).count success) calls e +
          e.checksBefore (e.afterCalls calls).cursor := by
  refine ⟨e.accounts tools r, fun line => ?_, fun c => ?_, sumCalls_count_success calls e⟩
  · rw [step?_eq_some_iff]
    simp only [Step.ofLine_eq_send_iff]
  · rw [step?_eq_some_iff]
    simp only [Step.ofLine_eq_compare_iff]

end Engine

end BringUp
