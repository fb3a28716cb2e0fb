import BringUp.Proofs.Engine.Writing
import BringUp.Proofs.Session.Provenance
import BringUp.Proofs.Text.Octets

/-!
# Every write is a line

A session writes the octets of a line and of a line end. The line comes from the script, where no
line feed stands in it, and from the values of variables, which are parts of lines of replies or of
what functions gave. None of these has a line end in it, but a carriage return and a line feed can
still meet when the references are replaced, so that the device is sent two lines at once.

* `Stage.Writes`: a session has a line to write.
* `Stage.hasLines_play`: the lines of every sequence that is loaded have no line feed in them.
* `Stage.no_lineEnd_in_value`: no value has a line end in it.
* `Stage.written_as_one_line`: every write is a line, unless a carriage return and a line feed meet.
* `Stage.two_lines_written`: a write of two lines, where they meet.
-/

namespace BringUp

/-- No function gives a text with a carriage return or a line feed in it. -/
def Functions.GiveNoLineEnds (functions : Functions) : Prop :=
  ∀ name f, functions.get? name = some f → ∀ t arguments text,
    (f t arguments).result = .ok text → '\r' ∉ text.toList ∧ '\n' ∉ text.toList

/-- A function that gives no line ends may be added. -/
theorem Functions.GiveNoLineEnds.set {functions : Functions} (h : functions.GiveNoLineEnds)
    {f : Function} (hf : ∀ t arguments text, (f t arguments).result = .ok text →
      '\r' ∉ text.toList ∧ '\n' ∉ text.toList) (name : String) :
    Functions.GiveNoLineEnds (Table.set name f functions) := by
  intro other g hg
  by_cases hname : other = name
  · subst hname
    rw [Table.get?_set_self] at hg
    cases hg
    exact hf
  · rw [Table.get?_set_of_ne hname] at hg
    exact h other g hg

namespace Sample

/-- The sample setup with a function that gives `OK`. -/
def answering : Setup :=
  { setup with functions := Table.set "f" (Function.returning "OK") {} }

/-- The function gives no line end. -/
theorem giveNoLineEnds_answering : answering.functions.GiveNoLineEnds := by
  refine Functions.GiveNoLineEnds.set (fun name f hf => ?_) (fun t arguments text htext => ?_) "f"
  · cases hf
  · cases htext
    decide

/-- A script that captures a line feed from a reply and what the function gives, and writes both
behind a carriage return. -/
def capturing : FileTree where
  entries :=
    [(["c"], .file (Text.Utf8.encode
        "=A|(?<x>\\n)\n~f |(?<y>OK)\nB\r$\x7bx\x7d$\x7by\x7d\n")),
      (["s"], .file (Text.Utf8.encode "0\n1\n2\n"))]

/-- The script is run to its end, and the reply to its first command is a line feed. -/
def feedReply : List Happening :=
  [.wake (.line "p"), .wake (.line ""), .send 1 (.data [10, 13, 10]), .wake .tick, .wake .tick,
    .wake .tick]

end Sample

namespace Session

variable {setup : Setup} {o : Occurrence} {s s' : Session} {new : List Effect}

/-- Only a tick that runs a step writes to the device. -/
theorem Turn.running_of_wrote {octets : List UInt8} (h : Turn setup o s new s')
    (hwrote : .wrote octets ∈ new) :
    o = .tick ∧ s.state = .running := by
  cases h with
  | step _ _ hstate | fail _ hstate | lose _ hstate => exact ⟨rfl, hstate⟩
  | _ => simp [restarting] at hwrote

/-- An engine that a session has afterwards is one that it had before, with the cursor anywhere,
unless a line of the operator starts the sequence. -/
theorem Turn.keeps_engine {engine : Engine} (h : Turn setup o s new s')
    (hengine : s'.engine = some engine) :
    (∃ text, o = .line text ∧ s.state = .awaitStart) ∨
      ∃ before cursor, s.engine = some before ∧ engine = { before with cursor } := by
  cases h with
  | @load text _ _ _ hstate => exact .inl ⟨text, rfl, hstate⟩
  | step _ _ _ hbefore =>
    cases hengine
    exact .inr ⟨_, _, hbefore, rfl⟩
  | lose | close => cases hengine
  | _ => exact .inr ⟨engine, engine.cursor, hengine, rfl⟩

/-- A line of the operator that starts the sequence loads an engine that has lines, if any. -/
theorem hasLines_handle_start (hs : s.Coherent) (hstate : s.state = .awaitStart) (setup : Setup)
    (text : String) (w : World) :
    ∀ engine, (handle setup (.input text) w s).1.engine = some engine → engine.HasLines := by
  obtain ⟨-, hnone, -, -⟩ := hs.opened hstate
  -- A run that is completed because a file cannot be loaded is left without an engine.
  have hfailed (w : World) :
      (moveTo setup .complete w { s with state := .running }).2.1.engine = none := hnone
  rw [handle, dispatch_start hs hstate, load]
  intro engine hengine
  cases hcommands : w.files.loadCommandList setup.settings.commandList with
  | error failure => simp [World.record, hcommands, hfailed] at hengine
  | ok commands =>
    cases hentries : w.files.loadSequence setup.settings.commandSequence with
    | error failure => simp [World.record, hcommands, hentries, hfailed] at hengine
    | ok entries =>
      simp only [World.record, hcommands, hentries, Option.some.injEq] at hengine
      exact hengine ▸ Engine.hasLines_of_loaded hcommands hentries

end Session

namespace Stage

open Session

variable {setup : Setup} {s : Stage} {new : List Effect} {raw line : String} {octets : List UInt8}

/-! ### The script -/

/-- While a sequence that is loaded has lines, it has them after anything that happens. -/
theorem hasLines_happen (hs : s.session.Sound)
    (hlines : ∀ engine, s.session.engine = some engine → engine.HasLines) (setup : Setup)
    (h : Happening) :
    ∀ engine, (s.happen setup h).session.engine = some engine → engine.HasLines := by
  intro engine hengine
  obtain ⟨o, hline, new, -, hturn⟩ := turns_happen hs setup h
  rcases hturn.keeps_engine hengine with ⟨text, rfl, hstate⟩ | ⟨before, cursor, hbefore, rfl⟩
  · obtain rfl := hline text rfl
    by_cases hallows : s.Allows (.line text)
    · have hs := hs.coherent (outcome_of_allows hallows)
      rw [happen, if_pos hallows] at hengine
      exact hasLines_handle_start hs hstate setup text s.world engine hengine
    · rw [happen, if_neg hallows] at hengine
      exact hlines engine hengine
  · exact hlines before hbefore

/-- Whatever happens, the sequence that is loaded has lines. -/
theorem hasLines_play (setup : Setup) (files : FileTree) (operator : Operator)
    (happenings : List Happening) :
    ∀ engine, ((started setup files operator).play setup happenings).session.engine = some engine →
      engine.HasLines := by
  refine (keep_play (P := fun s => s.session.Sound ∧
      ∀ engine, s.session.engine = some engine → engine.HasLines)
    (fun s h _ hs => ?_) ⟨sound_play setup files operator [], ?_⟩).2
  · exact ⟨sound_happen hs.1 setup h, hasLines_happen hs.1 hs.2 setup h⟩
  · intro engine hengine
    cases hengine

/-! ### The values -/

/-- If no function gives a line end, no value that a session has while it goes on has one in it. -/
theorem no_lineEnd_in_value (hfunctions : setup.functions.GiveNoLineEnds) (files : FileTree)
    (operator : Operator) (happenings : List Happening)
    (houtcome : ((started setup files operator).play setup happenings).session.outcome = none)
    (name : String) : ¬ ['\r', '\n'] <:+:
      (((started setup files operator).play setup happenings).session.bindings.valueOf
        name).toList := by
  rw [Variables.valueOf]
  cases hvalue : ((started setup files operator).play setup
    happenings).session.bindings.get? name with
  | none => simp
  | some value =>
    obtain ⟨before, later, -, hcaptured⟩ :=
      captured_play setup files operator happenings houtcome hvalue
    cases hcaptured with
    | @intro _ _ _ _ text _ hsucceeds hname hpart hsince hclosed horigin =>
      -- A result has no carriage return, and a line of a reply was cut at the line ends.
      have htext : ¬ ['\r', '\n'] <:+: text.toList := by
        cases hsucceeds.reads with
        | result hfunction hresult =>
          exact fun h => (hfunctions _ _ hfunction _ _ _ hresult).1 (h.subset List.mem_cons_self)
        | line _ =>
          cases horigin with
          | line hnow hfresh =>
            obtain ⟨fresh, hwhole, hmem⟩ := hfresh
            exact Reply.not_lineEnd_infix_of_whole _ (hwhole ▸ List.mem_append_right _ hmem)
      exact fun h => htext (h.trans hpart)

/-! ### What is written -/

/-- A session that runs has a line to write: the step at its cursor has, and the line of the script
that stands there is `raw`. -/
inductive Writes (raw line : String) (s : Stage) : Prop where
  | intro {engine : Engine} {link : Link} : s.session.state = .running →
      s.session.engine = some engine → s.session.link = some link →
      engine.Writes raw line (s.session.rig s.world link) → Writes raw line s

/-- A tick that runs a step writes nothing but the line that the session has to write, and its
end. -/
theorem writes_of_tick (hs : s.session.Coherent) (hstate : s.session.state = .running)
    (heffects : (s.perform setup .tick).world.trace.effects = s.world.trace.effects ++ new)
    (hwrote : .wrote octets ∈ new) : ∃ raw line, s.Writes raw line ∧ octets = Link.octets line := by
  obtain ⟨hsome, -, engine, hengine, -⟩ := hs.underway (.inl hstate)
  obtain ⟨link, hlink⟩ := Option.isSome_iff_exists.1 hsome
  obtain ⟨more, hmore, hends⟩ := effects_tick hstate hengine hlink setup s.world
  obtain rfl := List.append_cancel_left (heffects.symm.trans hmore)
  -- If the step loses the connection, no line is written behind its own effects.
  have hstep : .wrote octets ∈ engine.newEffects setup.tools (s.session.rig s.world link) := by
    rcases hends with ⟨-, ⟨lines, rfl⟩, -⟩ | ⟨-, rfl⟩
    · simpa [restarting] using hwrote
    · simpa using hwrote
  obtain ⟨raw, line, hwrites, hoctets⟩ := Engine.writes_of_mem hstep
  exact ⟨raw, line, .intro hstate hengine hlink hwrites, hoctets⟩

/-- Only a tick writes, and only a line that the session has to write, and its end. -/
theorem writes_of_wrote (hs : s.session.Sound) {h : Happening}
    (heffects : (s.happen setup h).world.trace.effects = s.world.trace.effects ++ new)
    (hwrote : .wrote octets ∈ new) :
    h = .wake .tick ∧ ∃ raw line, s.Writes raw line ∧ octets = Link.octets line := by
  have hchanged : (s.happen setup h).world.trace.effects ≠ s.world.trace.effects := by
    rw [heffects, Ne, List.append_right_eq_self]
    exact List.ne_nil_of_mem hwrote
  cases h with
  | wait time | send delay a | hangUp | change files => exact absurd rfl hchanged
  | wake o =>
    by_cases hallows : s.Allows o
    · have hs := hs.coherent (outcome_of_allows hallows)
      have htick : o = .tick → s.session.nextTick.isSome := by
        rintro rfl
        exact hallows.2
      rw [happen, if_pos hallows] at heffects
      -- The rule tells which occurrence it is, and the step which line it writes.
      obtain ⟨new', heffects', hturn⟩ := turn_perform hs htick setup
      obtain rfl : new' = new := List.append_cancel_left (heffects'.symm.trans heffects)
      obtain ⟨rfl, hstate⟩ := hturn.running_of_wrote hwrote
      exact ⟨rfl, writes_of_tick hs hstate heffects hwrote⟩
    · rw [happen, if_neg hallows] at hchanged
      exact absurd rfl hchanged

/-- All that was written were lines that the session had to write at some tick, and their ends. -/
theorem writes_of_wrote_play {files : FileTree} {operator : Operator} {happenings : List Happening}
    (hwrote : .wrote octets ∈
      ((started setup files operator).play setup happenings).world.trace.effects) :
    ∃ before later raw line, happenings = before ++ .wake .tick :: later ∧
      ((started setup files operator).play setup before).Writes raw line ∧
        octets = Link.octets line := by
  -- What happened last is looked at first.
  induction happenings using List.reverseRecOn with
  | nil =>
    obtain ⟨lines, hlines⟩ := effects_listPorts setup { files }
    have hworld : (started setup files operator).world = listPorts setup { files } := rfl
    rw [play, List.foldl_nil, hworld, hlines] at hwrote
    simp [Trace.effects] at hwrote
  | append_singleton happenings h ih =>
    have hs := sound_play setup files operator happenings
    have hplay : (started setup files operator).play setup (happenings ++ [h]) =
        ((started setup files operator).play setup happenings).happen setup h :=
      play_append ..
    obtain ⟨o, -, new, heffects, -⟩ := turns_happen hs setup h
    rw [hplay, heffects] at hwrote
    rcases List.mem_append.1 hwrote with hbefore | hnew
    · obtain ⟨before, later, raw, line, rfl, hwrites⟩ := ih hbefore
      exact ⟨before, later ++ [h], raw, line, by simp, hwrites⟩
    · obtain ⟨rfl, raw, line, hwrites⟩ := writes_of_wrote hs heffects hnew
      exact ⟨happenings, [], raw, line, rfl, hwrites⟩

/-- If no function gives a line end, a line that a session has to write is one line, unless a value
that starts with a line feed meets a carriage return. -/
theorem Writes.oneLine_iff {files : FileTree} {operator : Operator} {happenings : List Happening}
    (hfunctions : setup.functions.GiveNoLineEnds)
    (h : ((started setup files operator).play setup happenings).Writes raw line) :
    Text.Utf8.OneLine (Link.octets line) ↔
      ¬ ((started setup files operator).play setup
        happenings).session.bindings.Breaks raw line := by
  cases h with
  | intro hstate hengine hlink hwrites =>
    have houtcome := (sound_play setup files operator happenings).outcome_of_link hlink
    exact hwrites.oneLine_iff (hasLines_play setup files operator happenings _ hengine)
      (no_lineEnd_in_value hfunctions files operator happenings houtcome)

/-- Whatever the script files are and whatever happens, as long as no function gives a carriage
return or a line feed: the octets that a session writes end with a carriage return and a line feed.
There are no others among them exactly if no value that starts with a line feed takes the place of a
reference right behind a carriage return. This holds of all that a session has to write, whether the
device takes it or not, and all that was written was to be written at some tick. -/
theorem written_as_one_line (hfunctions : setup.functions.GiveNoLineEnds) (files : FileTree)
    (operator : Operator) (happenings : List Happening) :
    let s := (started setup files operator).play setup happenings
    (∀ raw line, s.Writes raw line →
      let octets := Link.octets line
      [13, 10] <:+ octets ∧
        (Text.Utf8.OneLine octets ↔ ¬ s.session.bindings.Breaks raw line)) ∧
    ∀ octets, .wrote octets ∈ s.world.trace.effects →
      ∃ before later raw line, happenings = before ++ .wake .tick :: later ∧
        let s₀ := (started setup files operator).play setup before
        s₀.Writes raw line ∧ octets = Link.octets line ∧ [13, 10] <:+ octets ∧
          (Text.Utf8.OneLine octets ↔ ¬ s₀.session.bindings.Breaks raw line) := by
  intro s
  have hend (line : String) : [13, 10] <:+ Link.octets line :=
    ⟨_, (Text.Utf8.encode_append_lineEnd line).symm⟩
  refine ⟨fun raw line h => ⟨hend line, h.oneLine_iff hfunctions⟩, fun octets hwrote => ?_⟩
  obtain ⟨before, later, raw, line, hsplit, hwrites, rfl⟩ := writes_of_wrote_play hwrote
  exact ⟨before, later, raw, line, hsplit, hwrites, rfl, hend line,
    hwrites.oneLine_iff hfunctions⟩

/-- In the sample run the command `A` is written, and a command with a carriage return, a captured
line feed and `OK` in it. -/
theorem wrote_sample :
    let effects :=
      ((started Sample.answering Sample.capturing {}).play Sample.answering
        Sample.feedReply).world.trace.effects
    .wrote (Link.octets "A") ∈ effects ∧ .wrote (Link.octets "B\r\nOK") ∈ effects := by
  decide +kernel

/-- Both lines of the sample run were to be written, and each is one line exactly if no value that
starts with a line feed stands behind a carriage return in it. -/
theorem sample_lines_written :
    Sample.answering.functions.GiveNoLineEnds ∧
      ∀ octets ∈ [Link.octets "A", Link.octets "B\r\nOK"], ∃ before later raw line,
        Sample.feedReply = before ++ .wake .tick :: later ∧
          let s₀ := (started Sample.answering Sample.capturing {}).play Sample.answering before
          s₀.Writes raw line ∧ octets = Link.octets line ∧ [13, 10] <:+ octets ∧
            (Text.Utf8.OneLine octets ↔ ¬ s₀.session.bindings.Breaks raw line) := by
  refine ⟨Sample.giveNoLineEnds_answering, fun octets hoctets => ?_⟩
  refine (written_as_one_line Sample.giveNoLineEnds_answering Sample.capturing {}
    Sample.feedReply).2 octets ?_
  obtain ⟨hfirst, hsecond⟩ := wrote_sample
  rcases List.mem_pair.1 hoctets with rfl | rfl
  · exact hfirst
  · exact hsecond

/-- The second one is two lines: a captured line feed stands behind the carriage return of the
script. -/
theorem two_lines_written :
    ¬ ∀ (setup : Setup) (files : FileTree) (operator : Operator) (happenings : List Happening)
      (octets : List UInt8), setup.functions.GiveNoLineEnds →
      .wrote octets ∈ ((started setup files operator).play setup happenings).world.trace.effects →
      Text.Utf8.OneLine octets := by
  intro hall
  have hone := hall Sample.answering Sample.capturing {} Sample.feedReply (Link.octets "B\r\nOK")
    Sample.giveNoLineEnds_answering wrote_sample.2
  rw [Link.octets, Text.Utf8.oneLine_encode_iff] at hone
  exact hone (by decide)

end Stage

end BringUp
