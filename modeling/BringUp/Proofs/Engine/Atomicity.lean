import BringUp.Proofs.Engine.Effects
import BringUp.Proofs.Reply.Race

/-!
# An entry is run as a whole or not at all

Running the entry at the cursor moves the cursor by one, when its step succeeds, or leaves the
cursor and all variables as they were. The connection is lost in two ways only: the device refuses
the line that a step writes, or the end of the connection comes before the reply. All other errors
stop the sequence, but leave the link as quiet as it was.

* `Step.run_eq_error_iff`: the two ways in which a step loses the connection.
* `Engine.advance_runNext`: the end of a step tells what running the entry led to.
* `Engine.atomic_runNext`: all that can be said of running an entry, after any number of others.
-/

namespace BringUp

/-! ### Errors of a step itself -/

/-- Whether an error is one of the step itself: there is a step, and the connection stays. -/
def StepError.isOwn : StepError → Bool
  | .missingCommand _ | .transport _ | .transportClosed => false
  | _ => true

/-- An error of the step itself leaves the connection as it is. -/
theorem StepError.isLoss_of_isOwn {e : StepError} (h : e.isOwn = true) : e.isLoss = false := by
  cases e <;> first | rfl | cases h

/-- A reading that fails, if it does, with an error of the step itself. -/
def HasOwnErrors {α : Type} (reading : Except StepError α) : Prop :=
  ∀ error, reading = .error error → error.isOwn = true

namespace HasOwnErrors

variable {α β : Type}

theorem ok (a : α) : HasOwnErrors (.ok a : Except StepError α) := by
  intro error h
  cases h

theorem error {e : StepError} (he : e.isOwn = true) :
    HasOwnErrors (.error e : Except StepError α) := by
  intro error h
  cases h
  exact he

/-- One reading after another. -/
theorem bind {reading : Except StepError α} {f : α → Except StepError β}
    (h : HasOwnErrors reading) (hf : ∀ a, HasOwnErrors (f a)) :
    HasOwnErrors (reading >>= f) := by
  cases reading with
  | error e => exact error (h e rfl)
  | ok a => exact hf a

theorem map {reading : Except StepError α} (h : HasOwnErrors reading) (f : α → β) :
    HasOwnErrors (reading.map f) := by
  cases reading with
  | error e => exact error (h e rfl)
  | ok a => exact ok (f a)

end HasOwnErrors

open HasOwnErrors in
/-- Reading a pattern can only find that it is none. -/
theorem Expectation.hasOwnErrors_readPattern (text : List Char) :
    HasOwnErrors (readPattern text) := by
  unfold readPattern
  simp only
  split
  · exact ok _
  · exact error rfl

open HasOwnErrors in
theorem Expectation.hasOwnErrors_split (text : String) : HasOwnErrors (split text) := by
  unfold split
  split
  · exact (hasOwnErrors_readPattern _).map _
  · split
    · exact ok _
    · exact error rfl

open HasOwnErrors in
theorem Execution.hasOwnErrors_read (body : String) : HasOwnErrors (read body) := by
  unfold read
  refine (Expectation.hasOwnErrors_split body).bind fun (call, expect) => ?_
  simp only
  split
  · exact ok _
  · exact error rfl

open HasOwnErrors in
theorem VariableCheck.hasOwnErrors_read (body : String) : HasOwnErrors (read body) := by
  unfold read
  refine (Expectation.hasOwnErrors_split body).bind fun (left, expect) => ?_
  simp only
  split
  · exact ok _
  · exact error rfl

open HasOwnErrors in
theorem Comparison.hasOwnErrors_readCounted (right : List Char) :
    HasOwnErrors (readCounted right) := by
  unfold readCounted
  split
  · exact ok _
  · exact error rfl

open HasOwnErrors in
theorem Comparison.hasOwnErrors_readBetween (right : List Char) :
    HasOwnErrors (readBetween right) := by
  unfold readBetween
  refine (hasOwnErrors_readCounted right).bind fun (count, bounds) => ?_
  simp only
  split
  · exact error rfl
  · split
    · exact ok _
    · exact error rfl

open HasOwnErrors in
theorem Comparison.hasOwnErrors_read (body : String) : HasOwnErrors (read body) := by
  unfold read
  split
  · exact (hasOwnErrors_readBetween _).map _
  · split
    · exact (hasOwnErrors_readCounted _).map _
    · split
      · exact (Expectation.hasOwnErrors_readPattern _).map _
      · exact error rfl

open HasOwnErrors in
/-- Whatever is wrong with a line, the error is its own. -/
theorem Step.hasOwnErrors_ofLine (raw : String) (v : Variables) :
    HasOwnErrors (ofLine raw v) := by
  unfold ofLine
  simp only
  generalize String.ofList _ = body
  cases StepKind.ofLine raw.toList with
  | pause => exact ok _
  | print => exact ok _
  | execute => exact (Execution.hasOwnErrors_read body).map _
  | compare => exact (Comparison.hasOwnErrors_read body).map _
  | checkVariable => exact (VariableCheck.hasOwnErrors_read body).map _
  | send => exact ok _
  | invalid => exact ok _

/-- An entry that is no step names a command which is missing, or its line is at fault. -/
theorem Engine.error_of_step {e : Engine} {entry : Script.Entry} {v : Variables}
    {error : StepError} (h : e.step entry v = .error error) :
    (∃ index, entry = .command index ∧ e.commands.length ≤ index ∧
        error = .missingCommand index) ∨ error.isOwn = true := by
  unfold step line at h
  cases entry with
  | directive line => exact .inr (Step.hasOwnErrors_ofLine line v error h)
  | command index =>
    simp only at h
    cases hcommand : e.commands[index]? with
    | none =>
      rw [hcommand] at h
      cases h
      exact .inl ⟨index, rfl, List.getElem?_eq_none_iff.1 hcommand, rfl⟩
    | some command =>
      rw [hcommand] at h
      exact .inr (Step.hasOwnErrors_ofLine command v error h)

/-! ### How a step loses the connection -/

open HasOwnErrors in
theorem Expectation.hasOwnErrors_check (actual : String) (e : Expectation) :
    HasOwnErrors (e.check actual) := by
  unfold check
  split
  · exact ok _
  · exact error rfl

open HasOwnErrors in
/-- A call can fail, and its result can be wrong, but the connection stays. -/
theorem Execution.hasOwnErrors_run (tools : Tools) (e : Execution) (r : Rig) :
    HasOwnErrors (e.run tools r).1 := by
  unfold run
  split
  · exact error rfl
  · rename_i f _
    simp only
    split
    · exact error rfl
    · rename_i result _
      unfold Expectation.checkCapturing
      cases e.expect.capture? result r.bindings with
      | none => exact error rfl
      | some bindings => exact ok _

open HasOwnErrors in
theorem VariableCheck.hasOwnErrors_run (c : VariableCheck) (v : Variables) :
    HasOwnErrors (c.run v) := by
  unfold run
  split
  · exact error rfl
  · exact (Expectation.hasOwnErrors_check _ _).map _

/-- A reply is accepted and the sequence proceeds, or it is not as expected. -/
theorem ReplyCheck.accept_cases (lines : List String) (c : ReplyCheck) :
    c.accept lines = .ok .proceed ∨
      ∃ expected actual, c.accept lines = .error (.mismatch expected actual) := by
  cases c with
  | pattern p => exact .inl rfl
  | contains count expected =>
    rw [accept]
    split
    · exact .inl rfl
    · exact .inr ⟨_, _, rfl⟩
  | between low high =>
    rw [accept]
    split
    · exact .inl rfl
    · exact .inr ⟨_, _, rfl⟩

open HasOwnErrors in
theorem ReplyCheck.hasOwnErrors_accept (lines : List String) (c : ReplyCheck) :
    HasOwnErrors (c.accept lines) := by
  rcases c.accept_cases lines with h | ⟨expected, actual, h⟩
  · rw [h]
    exact ok _
  · rw [h]
    exact error rfl

open Reply

/-- What a request comes to is how its wait ended, unless the device refuses the command. -/
theorem Rig.fst_request (command : String) (wait : Wait) (timeout : Nat) (r : Rig) :
    (r.request command wait timeout).1 =
      match r.link.device.respond r.trace (Link.octets command) with
      | .error failure => .error (.transport failure)
      | .ok emissions =>
        ((r.link.listening r.trace.now emissions).await wait timeout r.trace.now).1.result
          command timeout := by
  cases hrespond : r.link.device.respond r.trace (Link.octets command) with
  | error failure => simp [request, Link.request, Link.send, hrespond]
  | ok emissions => rw [request, Link.request_of_respond hrespond]

/-- A comparison comes to what its request does, until there is a reply to check. -/
theorem Comparison.fst_run (tools : Tools) (c : Comparison) (r : Rig) :
    (c.run tools r).1 =
      (r.request c.command c.check.wait (c.check.timeout tools)).1.bind
        fun found => c.check.accept found.toLines := by
  unfold run
  generalize r.request c.command c.check.wait (c.check.timeout tools) = answer
  obtain ⟨result, after⟩ := answer
  cases result with
  | error e => rfl
  | ok found =>
    simp only [Except.bind]
    cases c.check.accept found.toLines with
    | error e => rfl
    | ok flow => rfl

namespace Step

/-- The line that a step writes to the device, if it writes one. -/
def written? : Step → Option String
  | .send line => some line
  | .compare comparison => some comparison.command
  | .pause _ | .print _ | .execute _ | .checkVariable _ | .invalid _ => none

/-- How a step can lose the connection, and the error that tells it. -/
inductive Loses (tools : Tools) (r : Rig) : Step → StepError → Prop where
  /-- The device refuses the line that the step writes. -/
  | refused {s : Step} {line : String} {failure : Failure} : s.written? = some line →
      r.link.device.respond r.trace (Link.octets line) = .error failure →
      Loses tools r s (.transport failure)
  /-- The end of the connection comes before the reply. -/
  | ended {c : Comparison} {emissions : List Emission} :
      r.link.device.respond r.trace (Link.octets c.command) = .ok emissions →
      ((r.link.listening r.trace.now emissions).await c.check.wait (c.check.timeout tools)
        r.trace.now).1 = .closed →
      Loses tools r (.compare c) .transportClosed

variable {tools : Tools} {r : Rig} {error : StepError}

/-- A step that writes nothing loses nothing. -/
theorem not_loses_of_silent {s : Step} (hnone : s.written? = none) : ¬ s.Loses tools r error := by
  rintro (⟨hline, -⟩ | ⟨-, -⟩)
  · rw [hnone] at hline
    cases hline
  · cases hnone

/-- A step that writes a line loses the connection if the device refuses the line, or if it waits
for a reply before which the connection ends. -/
theorem run_eq_error_iff (s : Step) (hloss : error.isLoss = true) :
    (s.run tools r).1 = .error error ↔ s.Loses tools r error := by
  have hsilent (hnone : s.written? = none) (hkeeps : HasOwnErrors (s.run tools r).1) :
      (s.run tools r).1 = .error error ↔ s.Loses tools r error := by
    refine iff_of_false (fun h => ?_) (not_loses_of_silent hnone)
    rw [StepError.isLoss_of_isOwn (hkeeps error h)] at hloss
    cases hloss
  cases s with
  | pause text => exact hsilent rfl (.ok _)
  | print text => exact hsilent rfl (.ok _)
  | execute execution => exact hsilent rfl (execution.hasOwnErrors_run tools r)
  | checkVariable check => exact hsilent rfl (check.hasOwnErrors_run r.bindings)
  | invalid raw => exact hsilent rfl (.error rfl)
  | send line =>
    simp only [run, Link.send]
    cases hrespond : r.link.device.respond r.trace (Link.octets line) with
    | error failure =>
      constructor
      · rintro ⟨⟩
        exact .refused rfl hrespond
      · rintro (⟨hline, hrefused⟩ | ⟨-, -⟩)
        cases hline
        rw [hrespond] at hrefused
        cases hrefused
        rfl
    | ok emissions =>
      refine iff_of_false (fun h => by cases h) ?_
      rintro (⟨hline, hrefused⟩ | ⟨-, -⟩)
      cases hline
      rw [hrespond] at hrefused
      cases hrefused
  | compare comparison =>
    rw [run, comparison.fst_run, Rig.fst_request]
    cases hrespond : r.link.device.respond r.trace (Link.octets comparison.command) with
    | error failure =>
      constructor
      · rintro ⟨⟩
        exact .refused rfl hrespond
      · rintro (⟨hline, hrefused⟩ | ⟨hwritten, -⟩)
        · cases hline
          rw [hrespond] at hrefused
          cases hrefused
          rfl
        · rw [hrespond] at hwritten
          cases hwritten
    | ok emissions =>
      -- The command is written, so that only the wait can lose the connection.
      have hloses : (compare comparison).Loses tools r error ↔ error = .transportClosed ∧
          ((r.link.listening r.trace.now emissions).await comparison.check.wait
            (comparison.check.timeout tools) r.trace.now).1 = .closed := by
        constructor
        · rintro (⟨hline, hrefused⟩ | ⟨hwritten, hclosed⟩)
          · cases hline
            rw [hrespond] at hrefused
            cases hrefused
          · rw [hrespond] at hwritten
            cases hwritten
            exact ⟨rfl, hclosed⟩
        · rintro ⟨rfl, hclosed⟩
          exact .ended hrespond hclosed
      rw [hloses]
      simp only
      cases ((r.link.listening r.trace.now emissions).await comparison.check.wait
        (comparison.check.timeout tools) r.trace.now).1 with
      | resolved found =>
        refine iff_of_false (fun h => ?_) (fun h => by cases h.2)
        rw [StepError.isLoss_of_isOwn
          (comparison.check.hasOwnErrors_accept found.toLines error h)] at hloss
        cases hloss
      | closed =>
        refine ⟨fun h => ?_, fun h => ?_⟩
        · cases h
          exact ⟨rfl, rfl⟩
        · rw [h.1]
          rfl
      | timeout =>
        refine iff_of_false (fun h => ?_) (fun h => by cases h.2)
        cases h
        cases hloss

/-- A step that is run fails with an error of its own, unless it loses the connection. -/
theorem isOwn_of_run (s : Step) (h : (s.run tools r).1 = .error error)
    (hkeeps : error.isLoss = false) : error.isOwn = true := by
  cases s with
  | pause text => cases h
  | print text => cases h
  | execute execution => exact execution.hasOwnErrors_run tools r error h
  | checkVariable check => exact check.hasOwnErrors_run r.bindings error h
  | invalid raw =>
    cases h
    rfl
  | send line =>
    simp only [run] at h
    split at h
    · cases h
      cases hkeeps
    · cases h
  | compare comparison =>
    rw [run, comparison.fst_run, Rig.fst_request] at h
    cases hrespond : r.link.device.respond r.trace (Link.octets comparison.command) with
    | error failure =>
      rw [hrespond] at h
      cases h
      cases hkeeps
    | ok emissions =>
      rw [hrespond] at h
      simp only at h
      generalize ((r.link.listening r.trace.now emissions).await comparison.check.wait
        (comparison.check.timeout tools) r.trace.now).1 = outcome at h
      cases outcome with
      | resolved found => exact comparison.check.hasOwnErrors_accept found.toLines error h
      | closed =>
        cases h
        cases hkeeps
      | timeout =>
        cases h
        rfl

/-! ### Which steps ask for a pause -/

/-- A line asks for a pause if it starts with two number signs. -/
theorem kind_eq_pause_iff (cs : List Char) : StepKind.ofLine cs = .pause ↔ ['#', '#'] <+: cs := by
  unfold StepKind.ofLine
  split
  · simp
  · simp
  · rename_i cs hother
    refine iff_of_false (by simp) ?_
    rintro ⟨rest, hrest⟩
    obtain ⟨-, rfl⟩ := List.cons.inj hrest
    exact hother rest rfl
  · simp
  · simp
  · simp
  · rename_i c cs hother _ _ _ _
    refine iff_of_false (by simp) ?_
    rintro ⟨rest, hrest⟩
    obtain ⟨rfl, rfl⟩ := List.cons.inj hrest
    exact hother rest rfl rfl

/-- A line that asks for a pause is always read, and no other line is read as one. -/
theorem ofLine_eq_pause_iff (raw : String) (v : Variables) :
    (∃ text, ofLine raw v = .ok (.pause text)) ↔ ['#', '#'] <+: raw.toList := by
  rw [← kind_eq_pause_iff]
  unfold ofLine
  simp only
  generalize String.ofList _ = body
  have hother {α : Type} {reading : Except StepError α} {f : α → Step}
      (hf : ∀ a text, f a ≠ .pause text) : ¬ ∃ text, reading.map f = .ok (.pause text) := by
    rintro ⟨text, h⟩
    cases reading with
    | error e => cases h
    | ok a => exact hf a text (Except.ok.inj h)
  cases StepKind.ofLine raw.toList with
  | pause => simp [read]
  | print => simp [read]
  | execute => exact iff_of_false (hother (by simp)) (by simp)
  | compare => exact iff_of_false (hother (by simp)) (by simp)
  | checkVariable => exact iff_of_false (hother (by simp)) (by simp)
  | send => simp [read]
  | invalid => simp [read]

/-- Only the step of a pause asks for one, and it never fails. -/
theorem run_eq_pause_iff (s : Step) :
    (s.run tools r).1 = .ok .pause ↔ ∃ text, s = .pause text := by
  have hother (hs : ∀ text, s ≠ .pause text) (hflow : (s.run tools r).1 ≠ .ok .pause) :
      (s.run tools r).1 = .ok .pause ↔ ∃ text, s = .pause text :=
    iff_of_false hflow fun ⟨text, h⟩ => hs text h
  cases s with
  | pause text => exact iff_of_true rfl ⟨text, rfl⟩
  | print text => exact hother (by simp) (by simp [run])
  | execute execution =>
    refine hother (by simp) ?_
    simp only [run, Execution.run]
    split
    · rintro ⟨⟩
    · split
      · rintro ⟨⟩
      · split
        · rintro ⟨⟩
        · rintro ⟨⟩
  | compare comparison =>
    refine hother (by simp) ?_
    rw [run, comparison.fst_run]
    cases (r.request comparison.command comparison.check.wait
      (comparison.check.timeout tools)).1 with
    | error e => rintro ⟨⟩
    | ok found =>
      rw [Except.bind]
      rcases comparison.check.accept_cases found.toLines with h | ⟨expected, actual, h⟩
      · rw [h]
        rintro ⟨⟩
      · rw [h]
        rintro ⟨⟩
  | checkVariable check =>
    refine hother (by simp) ?_
    simp only [run, VariableCheck.run]
    split
    · rintro ⟨⟩
    · rename_i value _
      cases check.expect.check value with
      | error e => rintro ⟨⟩
      | ok u => rintro ⟨⟩
  | send line =>
    refine hother (by simp) ?_
    simp only [run]
    split
    · rintro ⟨⟩
    · rintro ⟨⟩
  | invalid raw => exact hother (by simp) (by simp [run])

end Step

/-! ### Running an entry -/

/-- The step succeeded. -/
def Advance.Succeeds : Advance → Prop
  | .next | .pause => True
  | .exhausted | .failed _ | .transportClosed => False

/-- The step failed, or lost the connection. -/
def Advance.Fails : Advance → Prop
  | .failed _ | .transportClosed => True
  | .next | .pause | .exhausted => False

/-- What running an entry leads to, by how its step ends; nothing if there is no entry. -/
def Advance.ofAttempt : Option (Except StepError Flow) → Advance
  | none => .exhausted
  | some (.ok .proceed) => .next
  | some (.ok .pause) => .pause
  | some (.error error) => if error.isLoss then .transportClosed else .failed error

namespace Advance

variable {attempt : Option (Except StepError Flow)}

theorem ofAttempt_eq_exhausted_iff : ofAttempt attempt = .exhausted ↔ attempt = none := by
  unfold ofAttempt
  split
  · simp
  · simp
  · simp
  · split
    · simp
    · simp

theorem succeeds_ofAttempt_iff :
    (ofAttempt attempt).Succeeds ↔ ∃ flow, attempt = some (.ok flow) := by
  unfold ofAttempt
  split
  · simp [Succeeds]
  · simp [Succeeds]
  · simp [Succeeds]
  · split
    · simp [Succeeds]
    · simp [Succeeds]

theorem ofAttempt_eq_pause_iff : ofAttempt attempt = .pause ↔ attempt = some (.ok .pause) := by
  unfold ofAttempt
  split
  · simp
  · simp
  · simp
  · split
    · simp
    · simp

theorem ofAttempt_eq_transportClosed_iff : ofAttempt attempt = .transportClosed ↔
    ∃ error, attempt = some (.error error) ∧ error.isLoss = true := by
  unfold ofAttempt
  split
  · simp
  · simp
  · simp
  · split
    · simp [*]
    · simp [*]

theorem ofAttempt_eq_failed_iff {error : StepError} : ofAttempt attempt = .failed error ↔
    attempt = some (.error error) ∧ error.isLoss = false := by
  unfold ofAttempt
  split
  · simp
  · simp
  · simp
  · rename_i error'
    split
    · rename_i hloss
      refine iff_of_false (by simp) ?_
      rintro ⟨⟨⟩, hkeeps⟩
      rw [hloss] at hkeeps
      cases hkeeps
    · rename_i hkeeps
      constructor
      · rintro ⟨⟩
        exact ⟨rfl, Bool.eq_false_iff.2 hkeeps⟩
      · rintro ⟨⟨⟩, -⟩
        rfl

end Advance

namespace Engine

variable (tools : Tools) (e : Engine) (r : Rig)

/-- The step at the cursor, or why its line is no step; nothing if no entry is left. -/
def current? : Option (Except StepError Step) :=
  e.entries[e.cursor]?.map fun entry => e.step entry r.bindings

/-- How the step at the cursor ends; nothing if no entry is left. -/
def attempt? : Option (Except StepError Flow) :=
  (e.current? r).map fun reading => reading.bind fun step => (step.run tools (e.trying r)).1

/-- The end of a step tells what running the entry led to. -/
theorem advance_runNext : (e.runNext tools r).1 = .ofAttempt (e.attempt? tools r) := by
  unfold runNext attempt? current?
  cases e.entries[e.cursor]? with
  | none => rfl
  | some entry =>
    have hfail (error : StepError) (after : Rig) :
        (e.fail tools error after).1 = .ofAttempt (some (.error error)) := by
      rw [fail, Advance.ofAttempt]
      split
      · rfl
      · rfl
    simp only [Option.map_some]
    cases e.step entry r.bindings with
    | error error => exact hfail error _
    | ok step =>
      have htrying : { r with trace := r.trace.record (.tried e.cursor) } = e.trying r := rfl
      rw [htrying]
      cases hrun : step.run tools (e.trying r) with
      | mk result after =>
        have hbind : (Except.ok step : Except StepError Step).bind
            (fun step => (step.run tools (e.trying r)).1) = result := by
          rw [Except.bind, hrun]
        simp only [hbind, hrun]
        cases result with
        | error error => exact hfail error after
        | ok flow =>
          cases flow with
          | proceed => rfl
          | pause => rfl

/-- No step is attempted exactly when no entry is left. -/
theorem attempt?_eq_none_iff : e.attempt? tools r = none ↔ e.size ≤ e.cursor := by
  rw [attempt?, current?, Option.map_map, Option.map_eq_none_iff, List.getElem?_eq_none_iff, size]

/-- A step asks for a pause exactly when its line starts with two number signs. -/
theorem attempt?_eq_pause_iff : e.attempt? tools r = some (.ok .pause) ↔
    ∃ entry line, e.entries[e.cursor]? = some entry ∧ e.line entry = .ok line ∧
      ['#', '#'] <+: line.toList := by
  have hreading (entry : Script.Entry) :
      ((e.step entry r.bindings).bind fun step => (step.run tools (e.trying r)).1) = .ok .pause ↔
        ∃ text, e.step entry r.bindings = .ok (.pause text) := by
    cases e.step entry r.bindings with
    | error error => exact iff_of_false nofun nofun
    | ok step =>
      rw [Except.bind, step.run_eq_pause_iff]
      simp
  have hline (entry : Script.Entry) : (∃ text, e.step entry r.bindings = .ok (.pause text)) ↔
      ∃ line, e.line entry = .ok line ∧ ['#', '#'] <+: line.toList := by
    unfold step
    cases e.line entry with
    | error error => simp
    | ok line => simpa using Step.ofLine_eq_pause_iff line r.bindings
  rw [attempt?, current?, Option.map_map]
  simp only [Option.map_eq_some_iff, Function.comp_apply, hreading, hline, exists_and_left]

/-- A step is attempted with an error that loses the connection exactly when it loses it. -/
theorem attempt?_eq_error_iff {error : StepError} (hloss : error.isLoss = true) :
    e.attempt? tools r = some (.error error) ↔
      ∃ step, e.current? r = some (.ok step) ∧ step.Loses tools (e.trying r) error := by
  unfold attempt?
  cases hcurrent : e.current? r with
  | none => simp
  | some reading =>
    rw [Option.map_some, Option.some_inj]
    cases reading with
    | ok step =>
      rw [Except.bind, step.run_eq_error_iff hloss]
      simp
    | error error' =>
      refine iff_of_false (fun h => ?_) (by simp)
      -- The line could not be read, and that loses no connection.
      obtain ⟨entry, -, hstep⟩ := Option.map_eq_some_iff.1 hcurrent
      cases h
      rcases error_of_step hstep with ⟨index, -, -, rfl⟩ | hown
      · cases hloss
      · rw [StepError.isLoss_of_isOwn hown] at hloss
        cases hloss

/-- The step at the cursor is missing exactly when the entry names a command that the command list
does not have. -/
theorem attempt?_eq_missingCommand_iff {index : Nat} :
    e.attempt? tools r = some (.error (.missingCommand index)) ↔
      e.entries[e.cursor]? = some (.command index) ∧ e.commands.length ≤ index := by
  unfold attempt? current?
  constructor
  · intro h
    rw [Option.map_map, Option.map_eq_some_iff] at h
    obtain ⟨entry, hentry, hattempt⟩ := h
    simp only [Function.comp_apply] at hattempt
    cases hstep : e.step entry r.bindings with
    | error error =>
      rw [hstep] at hattempt
      cases hattempt
      rcases error_of_step hstep with ⟨index', rfl, hmissing, heq⟩ | hown
      · cases heq
        exact ⟨hentry, hmissing⟩
      · cases hown
    | ok step =>
      -- A step that is there fails for other reasons.
      rw [hstep] at hattempt
      cases step.isOwn_of_run hattempt rfl
  · rintro ⟨hentry, hmissing⟩
    have hstep : e.step (.command index) r.bindings = .error (.missingCommand index) := by
      rw [step, line, List.getElem?_eq_none_iff.2 hmissing]
    rw [hentry, Option.map_some, Option.map_some, hstep]
    rfl

variable {tools e r}

/-! ### What each end of a step does -/

namespace Ran

variable {result : Advance × Engine × Rig}

theorem of_exhausted (h : Ran e r result) (hend : result.1 = .exhausted) : result.2 = (e, r) := by
  cases h with
  | exhausted _ => rfl
  | succeeded _ hadvance _ => rcases hadvance with rfl | rfl <;> cases hend
  | failed _ _ _ => cases hend
  | lost _ _ _ => cases hend

/-- A step that succeeds moves the cursor by one. -/
theorem of_succeeds (h : Ran e r result) (hend : result.1.Succeeds) :
    e.cursor < e.size ∧ result.2.1 = { e with cursor := e.cursor + 1 } := by
  cases h with
  | succeeded hcursor _ _ => exact ⟨hcursor, rfl⟩
  | exhausted _ => exact hend.elim
  | failed _ _ _ => exact hend.elim
  | lost _ _ _ => exact hend.elim

/-- A step that does not succeed changes nothing that a later one could notice. -/
theorem of_fails (h : Ran e r result) (hend : result.1.Fails) :
    result.2.1 = e ∧ result.2.2.bindings = r.bindings := by
  cases h with
  | failed _ _ hbindings => exact ⟨rfl, hbindings⟩
  | lost _ _ hbindings => exact ⟨rfl, hbindings⟩
  | exhausted _ => exact hend.elim
  | succeeded _ hadvance _ => rcases hadvance with rfl | rfl <;> exact hend.elim

/-- A quiet link is left quiet. -/
theorem quiet (h : Ran e r result) (hquiet : r.link.IsQuiet) : result.2.2.link.IsQuiet := by
  cases h with
  | exhausted _ => exact hquiet
  | succeeded _ _ hleads => exact hleads.quiet hquiet
  | failed _ hleads _ => exact hleads.quiet hquiet
  | lost _ hleads _ => exact hleads.quiet hquiet

/-- The cursor moves on or stays, and never beyond the end. -/
theorem engine_eq (h : Ran e r result) :
    result.2.1 = e ∨ e.cursor < e.size ∧ result.2.1 = { e with cursor := e.cursor + 1 } := by
  cases h with
  | exhausted _ => exact .inl rfl
  | succeeded hcursor _ _ => exact .inr ⟨hcursor, rfl⟩
  | failed _ _ _ => exact .inl rfl
  | lost _ _ _ => exact .inl rfl

end Ran

/-! ### Running entry after entry -/

/-- The engine after some calls, each with tools and on a rig of its own: between two calls anything
may happen to the link, the variables and the clock. -/
def afterCalls (calls : List (Tools × Rig)) (e : Engine) : Engine :=
  calls.foldl (fun e call => (e.runNext call.1 call.2).2.1) e

/-- The cursor never goes back, and stays within the sequence or at its end. -/
theorem cursor_afterCalls (calls : List (Tools × Rig)) {e : Engine} (hcursor : e.cursor ≤ e.size) :
    ∃ cursor, e.afterCalls calls = { e with cursor } ∧ e.cursor ≤ cursor ∧ cursor ≤ e.size := by
  induction calls generalizing e with
  | nil => exact ⟨e.cursor, rfl, Nat.le_refl _, hcursor⟩
  | cons call calls ih =>
    have hcons : e.afterCalls (call :: calls) = (e.runNext call.1 call.2).2.1.afterCalls calls :=
      rfl
    rw [hcons]
    rcases (e.ran_runNext call.1 call.2).engine_eq with hstays | ⟨hlt, hmoves⟩
    · rw [hstays]
      exact ih hcursor
    · rw [hmoves]
      obtain ⟨cursor, hafter, hge, hle⟩ := ih (e := { e with cursor := e.cursor + 1 }) hlt
      exact ⟨cursor, hafter, Nat.le_of_succ_le hge, hle⟩

/-- What can be said of running the entry at the cursor. -/
structure Atomic (tools : Tools) (e : Engine) (r : Rig) : Prop where
  /-- It tells the end of the sequence exactly there. -/
  exhausted : (e.runNext tools r).1 = .exhausted ↔ e.cursor = e.size
  /-- At the end of the sequence it changes nothing. -/
  unchanged : e.cursor = e.size → (e.runNext tools r).2 = (e, r)
  /-- It succeeds exactly when the step does. -/
  succeeds : (e.runNext tools r).1.Succeeds ↔ ∃ flow, e.attempt? tools r = some (.ok flow)
  /-- It asks for a pause exactly when the line does. -/
  pause : (e.runNext tools r).1 = .pause ↔
    ∃ entry line, e.entries[e.cursor]? = some entry ∧ e.line entry = .ok line ∧
      ['#', '#'] <+: line.toList
  /-- When it succeeds the cursor moves by one. -/
  moves : (e.runNext tools r).1.Succeeds →
    (e.runNext tools r).2.1 = { e with cursor := e.cursor + 1 }
  /-- When it fails the cursor and all variables are as before. -/
  stays : (e.runNext tools r).1.Fails →
    (e.runNext tools r).2.1 = e ∧ (e.runNext tools r).2.2.bindings = r.bindings
  /-- It fails with the error of the step, if that leaves the connection as it is. -/
  fails : ∀ error, (e.runNext tools r).1 = .failed error ↔
    e.attempt? tools r = some (.error error) ∧ error.isLoss = false
  /-- It tells the loss of the connection exactly when the error of the step does. -/
  lost : (e.runNext tools r).1 = .transportClosed ↔
    ∃ error, e.attempt? tools r = some (.error error) ∧ error.isLoss = true
  /-- Such an error means that the device refused a line or that the connection ended. -/
  loses : ∀ error, error.isLoss = true → (e.attempt? tools r = some (.error error) ↔
    ∃ step, e.current? r = some (.ok step) ∧ step.Loses tools (e.trying r) error)
  /-- A link with no wait armed and no line queued is left so. -/
  quiet : r.link.IsQuiet → (e.runNext tools r).2.2.link.IsQuiet

/-- Running the entry at the cursor of an engine, whatever the tools and the rig are. -/
theorem atomic (tools : Tools) (r : Rig) (hcursor : e.cursor ≤ e.size) : e.Atomic tools r := by
  have hran := e.ran_runNext tools r
  have hend : (e.runNext tools r).1 = .exhausted ↔ e.cursor = e.size := by
    rw [advance_runNext, Advance.ofAttempt_eq_exhausted_iff, attempt?_eq_none_iff]
    omega
  exact
    { exhausted := hend
      unchanged := fun h => hran.of_exhausted (hend.2 h)
      succeeds := by rw [advance_runNext, Advance.succeeds_ofAttempt_iff]
      pause := by rw [advance_runNext, Advance.ofAttempt_eq_pause_iff, attempt?_eq_pause_iff]
      moves := fun h => (hran.of_succeeds h).2
      stays := hran.of_fails
      fails := fun error => by rw [advance_runNext, Advance.ofAttempt_eq_failed_iff]
      lost := by rw [advance_runNext, Advance.ofAttempt_eq_transportClosed_iff]
      loses := fun error => e.attempt?_eq_error_iff tools r
      quiet := hran.quiet }

/-- However often entries of a sequence are run, and whatever happens in between, the cursor stays
within the sequence or at its end and never goes back. Running the entry there moves the cursor by
one, when its step succeeds, or leaves the cursor and all variables as they were. -/
theorem atomic_runNext (commands : List String) (entries : List Script.Entry)
    (calls more : List (Tools × Rig)) (tools : Tools) (r : Rig) :
    let e := afterCalls calls { commands, entries }
    e.cursor ≤ e.size ∧ e.size = entries.length ∧ e.cursor ≤ (e.afterCalls more).cursor ∧
      e.Atomic tools r := by
  intro e
  obtain ⟨cursor, he, -, hle⟩ :=
    cursor_afterCalls calls (e := { commands, entries }) (Nat.zero_le _)
  have hengine : e = { commands, entries, cursor } := he
  have hsize : e.cursor ≤ e.size := by
    rw [hengine]
    exact hle
  obtain ⟨later, hlater, hge, -⟩ := cursor_afterCalls more hsize
  refine ⟨hsize, ?_, ?_, atomic tools r hsize⟩
  · rw [hengine]
    rfl
  · rw [hlater]
    exact hge

end Engine

end BringUp
