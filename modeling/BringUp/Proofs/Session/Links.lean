import BringUp.Proofs.Session.Closing
import BringUp.Proofs.Session.Transcript

/-!
# Links are opened and closed in turn

A session holds one link at most. It opens one only while it holds none, and it closes every link
that it gives up, once; when it comes to an outcome, it holds none. What is done with a link is done
between its opening and its closing. A port that does not open leaves the session as it was, and
what a device reports when its link is closed makes no difference.

* `Effect.Holds`: effects that open, use and close links in turn.
* `Session.Turn.holds`: every rule keeps to this.
* `Effect.Ledger`: what this means for the numbers of openings and closings.
* `Stage.links_balanced`: all of this for every run.
-/

namespace BringUp

namespace Effect

/-- The link that an effect opens. -/
def opened? : Effect → Option String
  | .opened link => some link
  | _ => none

/-- How many links are opened. -/
def opens (es : List Effect) : Nat := (es.filterMap opened?).length

/-- How many links are closed. -/
def closes (es : List Effect) : Nat := es.count .closed

/-- An effect that asks for another link or opens it. -/
def IsForNewLink : Effect → Prop
  | .opening _ _ | .opened _ => True
  | _ => False

/-- An effect that uses the link that is held, or closes it. -/
def IsOnLink : Effect → Prop
  | .wrote _ | .closed => True
  | _ => False

/-- Effects at whose end a link is held or not. -/
structure Ledger (es : List Effect) (held : Bool) : Prop where
  /-- Every link that was opened has been closed, but for the one that is held. -/
  balance : opens es = closes es + held.toNat
  /-- A link is asked for and opened only when all earlier ones have been closed. -/
  free : ∀ before e after, es = before ++ e :: after → e.IsForNewLink → opens before = closes before
  /-- A link is used and closed only while it has not been closed, and no other one has been
  opened. -/
  onLink : ∀ before e after, es = before ++ e :: after → e.IsOnLink →
    opens before = closes before + 1 ∧
      ∃ earlier link since, before = earlier ++ .opened link :: since ∧
        ∀ e ∈ since, e ≠ .closed ∧ ¬ e.IsOpened

theorem opens_append (es new : List Effect) : opens (es ++ new) = opens es + opens new := by
  rw [opens, List.filterMap_append, List.length_append]
  rfl

theorem closes_append (es new : List Effect) : closes (es ++ new) = closes es + closes new :=
  List.count_append

/-! ### One effect after the other -/

/-- Whether a link is held behind an effect, by whether one is held before it; nothing if the effect
is out of turn. -/
def holds (held : Bool) : Effect → Option Bool
  | .opening _ _ => if held then none else some false
  | .opened _ => if held then none else some true
  | .wrote _ => if held then some true else none
  | .closed => if held then some false else none
  | .tried _ | .shown _ | .called _ _ _ | .listed | .read _ | .saving _ => some held

/-- Effects that open, use and close links in turn: if a link is held before them or not, one is
held behind them or not. -/
def Holds (held : Bool) (es : List Effect) (held' : Bool) : Prop :=
  es.foldlM holds held = some held'

namespace Holds

variable {held middle held' : Bool} {es new : List Effect}

theorem append (h : Holds held es middle) (h' : Holds middle new held') :
    Holds held (es ++ new) held' := by
  rw [Holds, List.foldlM_append, h]
  exact h'

/-- What is in turn is so up to any point. -/
theorem of_append (h : Holds held (es ++ new) held') :
    ∃ middle, Holds held es middle ∧ Holds middle new held' := by
  rw [Holds, List.foldlM_append] at h
  exact Option.bind_eq_some_iff.1 h

theorem cons_iff {e : Effect} : Holds held (e :: es) held' ↔
    ∃ middle, e.holds held = some middle ∧ Holds middle es held' := by
  rw [Holds, List.foldlM_cons]
  exact Option.bind_eq_some_iff

/-- Effects that neither open nor close a link, nor use one, are in turn anywhere. -/
theorem of_neutral (h : ∀ e ∈ new, e.holds held = some held) : Holds held new held := by
  induction new with
  | nil => rfl
  | cons e new ih =>
    obtain ⟨he, hnew⟩ := List.forall_mem_cons.1 h
    exact cons_iff.2 ⟨held, he, ih hnew⟩

/-- A step uses the link that is held, and keeps it. -/
theorem of_isOfStep (h : ∀ e ∈ new, e.IsOfStep) : Holds true new true := by
  refine of_neutral fun e he => ?_
  have hstep := h e he
  cases e with
  | shown _ | wrote _ | called _ _ _ => rfl
  | _ => exact hstep.elim

/-- The numbers of openings and closings tell whether a link is held. -/
theorem balance (h : Holds held es held') :
    opens es + held.toNat = closes es + held'.toNat := by
  induction es generalizing held with
  | nil =>
    obtain rfl : held = held' := Option.some.inj h
    rfl
  | cons e es ih =>
    obtain ⟨middle, he, hrest⟩ := cons_iff.1 h
    have hone : opens [e] + held.toNat = closes [e] + middle.toNat := by
      cases e <;> cases held <;> cases he <;> rfl
    have hmore := ih hrest
    rw [← List.singleton_append, opens_append, closes_append]
    omega

/-- The link that is held is the one that was opened last, and it has not been closed. -/
theorem exists_opened (h : Holds false es true) : ∃ earlier link since,
    es = earlier ++ .opened link :: since ∧ ∀ e ∈ since, e ≠ .closed ∧ ¬ e.IsOpened := by
  induction es using List.reverseRecOn with
  | nil => cases h
  | append_singleton es e ih =>
    obtain ⟨middle, hes, hlast⟩ := h.of_append
    obtain ⟨held, he, hnil⟩ := cons_iff.1 hlast
    obtain rfl : held = true := Option.some.inj hnil
    cases middle with
    | false =>
      -- Only an opening leads from no link to one.
      cases e with
      | opened link => exact ⟨es, link, [], rfl, nofun⟩
      | _ => cases he
    | true =>
      obtain ⟨earlier, link, since, rfl, hsince⟩ := ih hes
      have hkept : e ≠ .closed ∧ ¬ e.IsOpened := by
        cases e with
        | opened _ | closed => cases he
        | _ => exact ⟨nofun, id⟩
      refine ⟨earlier, link, since ++ [e], by simp, fun e' he' => ?_⟩
      rcases List.mem_append.1 he' with hmem | hmem
      · exact hsince e' hmem
      · rwa [List.mem_singleton.1 hmem]

/-- Effects that are in turn from the start of a run on have their ledger. -/
theorem ledger (h : Holds false es held) : Ledger es held where
  balance := by simpa using h.balance
  free before e after hes he := by
    obtain ⟨middle, hbefore, hafter⟩ := (hes ▸ h).of_append
    obtain ⟨_, hstep, -⟩ := cons_iff.1 hafter
    have hfree : middle = false := by
      cases e with
      | opening _ _ | opened _ => cases middle <;> first | rfl | cases hstep
      | _ => exact he.elim
    simpa [hfree] using hbefore.balance
  onLink before e after hes he := by
    obtain ⟨middle, hbefore, hafter⟩ := (hes ▸ h).of_append
    obtain ⟨_, hstep, -⟩ := cons_iff.1 hafter
    have hheld : middle = true := by
      cases e with
      | wrote _ | closed => cases middle <;> first | rfl | cases hstep
      | _ => exact he.elim
    rw [hheld] at hbefore
    exact ⟨by simpa using hbefore.balance, hbefore.exists_opened⟩

end Holds

end Effect

namespace Session

open Effect Effect.Holds

variable {setup : Setup} {s s' : Session} {o : Occurrence} {new : List Effect}

/-- When a connection ends, its link is closed. -/
theorem holds_restarting (lines : List String) : Holds true (restarting lines) false := by
  have hlines : Holds false (.listed :: lines.map .shown) false :=
    .of_neutral (by simp [Effect.holds])
  have hclosed : Holds true [.shown "Port closed", .closed] false := rfl
  exact hclosed.append hlines

/-- Every rule opens, uses and closes links in turn. -/
theorem Turn.holds (h : Turn setup o s new s') (hs : s.Coherent) :
    Holds s.link.isSome new s'.link.isSome := by
  cases h with
  | rest hlink htick hquiet =>
    rw [hlink]
    rfl
  | refuse port line hstate =>
    rw [(hs.selecting hstate).1]
    rfl
  | connect port line line' hstate hquiet =>
    rw [(hs.selecting hstate).1]
    rfl
  | load nextTick hstate hcursor => exact .of_neutral (by simp [Effect.holds])
  | loadFail line nextTick hstate hpaths =>
    exact Holds.append (.of_neutral (by simp [Effect.holds])) rfl
  | resume hstate => rfl
  | step bindings nextTick hstate hengine hcursor hnext hnew hquiet =>
    rw [(hs.underway (.inl hstate)).1]
    exact cons_iff.2 ⟨true, rfl, of_isOfStep hnew⟩
  | fail nextTick hstate hengine hcursor hnew hquiet =>
    rw [(hs.underway (.inl hstate)).1]
    exact cons_iff.2 ⟨true, rfl, of_isOfStep hnew⟩
  | exhaust nextTick hstate hengine hcursor => rfl
  | lose lines hstate hengine hcursor hnew =>
    rw [(hs.underway (.inl hstate)).1]
    exact cons_iff.2 ⟨true, rfl, (of_isOfStep hnew).append (holds_restarting lines)⟩
  | close lines hlink =>
    rw [hlink]
    exact holds_restarting lines
  | finish path lines outcome hstate =>
    rw [(hs.complete hstate).1]
    have hlines : Holds false (lines.map .shown) false := .of_neutral (by simp [Effect.holds])
    have hclosed : Holds true [.saving path, .closed] false := rfl
    exact hclosed.append hlines

/-- While the operator may pick a port, nothing but the opening of one changes the session. -/
theorem Turn.eq_of_not_opened (h : Turn setup o s new s') (hs : s.Coherent)
    (hstate : s.state = .awaitTransportSelect) (hnew : ∀ e ∈ new, ¬ e.IsOpened) : s' = s := by
  obtain ⟨hlink, -, htick, -⟩ := hs.selecting hstate
  cases h with
  | @rest _ _ link nextTick hlink' htick' hquiet =>
    rw [hlink, Option.isSome_none, Option.isSome_eq_false_iff, Option.isNone_iff_eq_none] at hlink'
    rw [htick, Option.isSome_none, Option.isSome_eq_false_iff, Option.isNone_iff_eq_none] at htick'
    rw [hlink', htick', ← hlink, ← htick]
  | refuse port line hstate => rfl
  | @connect text _ link port line line' hstate hquiet =>
    exact absurd trivial (hnew (.opened link.name) (by simp))
  | close lines hsome =>
    rw [hlink] at hsome
    cases hsome
  -- The other rules are for other states.
  | load _ hother | loadFail _ _ hother | resume hother => simp [hstate] at hother
  | step _ _ hother | fail _ hother | exhaust _ hother | lose _ hother => simp [hstate] at hother
  | finish _ _ _ hother => simp [hstate] at hother

end Session

namespace Stage

open Effect

variable {setup : Setup} {s : Stage}

/-- Nothing is done by a session that is over. -/
theorem effects_happen_of_ended (houtcome : s.session.outcome.isSome) (setup : Setup)
    (h : Happening) : (s.happen setup h).world.trace.effects = s.world.trace.effects := by
  cases h with
  | wait time => exact Trace.effects_waitUntil time s.world.trace
  | send delay a => rfl
  | hangUp => rfl
  | change files => rfl
  | wake o => rw [happen, if_neg (not_allows_of_outcome houtcome o)]

/-- Whatever happens, links are opened, used and closed in turn. -/
theorem holds_happen (hs : s.session.Sound)
    (hholds : Holds false s.world.trace.effects s.session.link.isSome) (setup : Setup)
    (h : Happening) :
    Holds false (s.happen setup h).world.trace.effects (s.happen setup h).session.link.isSome := by
  cases hs with
  | ended houtcome hlink =>
    rw [effects_happen_of_ended houtcome, (happen_of_ended houtcome hlink setup h).1]
    exact hholds
  | goesOn houtcome hs =>
    obtain ⟨o, -, new, heffects, hturn⟩ := turns_happen (.goesOn houtcome hs) setup h
    rw [heffects]
    exact hholds.append (hturn.holds hs)

/-- Whatever has happened, links have been opened, used and closed in turn. -/
theorem holds_play (setup : Setup) (files : FileTree) (operator : Operator)
    (happenings : List Happening) :
    Holds false ((started setup files operator).play setup happenings).world.trace.effects
      ((started setup files operator).play setup happenings).session.link.isSome := by
  refine (keep_play (P := fun s => s.session.Sound ∧
      Holds false s.world.trace.effects s.session.link.isSome)
    (fun s h _ hs => ⟨sound_happen hs.1 setup h, holds_happen hs.1 hs.2 setup h⟩)
    ⟨sound_play setup files operator [], ?_⟩).2
  -- A session that has just started has only listed the ports.
  obtain ⟨lines, hlines⟩ := Session.effects_listPorts setup { files }
  have hworld : (started setup files operator).world = Session.listPorts setup { files } := rfl
  have hneutral : Holds false (.listed :: lines.map .shown) false :=
    .of_neutral (by simp [Effect.holds])
  have heffects : (started setup files operator).world.trace.effects =
      .listed :: lines.map .shown := by
    rw [hworld, hlines]
    rfl
  show Holds false (started setup files operator).world.trace.effects false
  rwa [heffects]

/-- A port that does not open leaves the session as it was, and the operator is told why. -/
theorem happen_of_refused {text : String} {failure : Failure} (hallows : s.Allows (.line text))
    (hstate : s.session.state = .awaitTransportSelect)
    (hrefused : setup.connector.connect s.world.trace (Text.trim text) setup.settings.baud =
      .error failure) :
    (s.happen setup (.wake (.line text))).session = s.session ∧
      (s.happen setup (.wake (.line text))).world.trace.effects = s.world.trace.effects ++
        [.opening (Text.trim text) setup.settings.baud, .shown (Session.errorLine failure)] := by
  have hopen : Session.openPort setup (Text.trim text) s.world s.session =
      (none, s.session, (s.world.record (.opening (Text.trim text) setup.settings.baud)).showLines
        [Session.errorLine failure]) := by
    simp only [Session.openPort, hrefused]
  have hhandle : s.session.handle setup (.input text) s.world = (s.session,
      (s.world.record (.opening (Text.trim text) setup.settings.baud)).showLines
        [Session.errorLine failure]) := by
    rw [Session.handle, Session.dispatch_select hstate, hopen]
  rw [happen, if_pos hallows, perform, hhandle]
  refine ⟨rfl, ?_⟩
  rw [World.effects_showLines, World.effects_record, List.append_assoc]
  rfl

/-- Until a port opens, the session stays as it was, however often one does not. -/
theorem play_of_not_opened (hs : s.session.Coherent) (houtcome : s.session.outcome = none)
    (hstate : s.session.state = .awaitTransportSelect) (setup : Setup)
    (later : List Happening) : ∃ new,
      (s.play setup later).world.trace.effects = s.world.trace.effects ++ new ∧
        ((∀ e ∈ new, ¬ e.IsOpened) → (s.play setup later).session = s.session) := by
  induction later generalizing s with
  | nil => exact ⟨[], by simp [play], fun _ => rfl⟩
  | cons h later ih =>
    have hsound := sound_happen (.goesOn houtcome hs) setup h
    obtain ⟨o, -, new, heffects, hturn⟩ := turns_happen (.goesOn houtcome hs) setup h
    by_cases hnew : ∀ e ∈ new, ¬ e.IsOpened
    · have hsame : (s.happen setup h).session = s.session :=
        hturn.eq_of_not_opened hs hstate hnew
      obtain ⟨more, hmore, hkept⟩ := ih (s := s.happen setup h) (by rwa [hsame])
        (by rwa [hsame]) (by rwa [hsame])
      refine ⟨new ++ more, ?_, fun hall => ?_⟩
      · rw [play_cons, hmore, heffects, List.append_assoc]
      · exact (hkept fun e he => hall e (List.mem_append_right _ he)).trans hsame
    · obtain ⟨more, hmore⟩ := effects_play hsound setup later
      refine ⟨new ++ more, ?_, fun hall => ?_⟩
      · rw [play_cons, hmore, heffects, List.append_assoc]
      · exact absurd (fun e he => hall e (List.mem_append_left _ he)) hnew

/-- The device at the far end of the link that is held is the one behind the port that was opened
last. -/
theorem device_of_link (setup : Setup) (files : FileTree) (operator : Operator)
    (happenings : List Happening) {link : Link}
    (hlink : ((started setup files operator).play setup happenings).session.link = some link) :
    link.device = (wire setup files operator happenings).device := by
  rcases unsaved_or_flushed setup files operator happenings with
    hs | ⟨before, later, -, -, -, -, hnone, hsame⟩
  · exact (hs.fits link hlink).1
  · -- Behind the tick that wrote the transcript there is no link.
    rw [hsame, hnone] at hlink
    cases hlink

/-- Whatever happens, in whatever order: every link that was opened has been closed, but for the one
that is held. A link is asked for and opened only while none is held; it is used and closed only
while it has not been closed; and the one that is held leads to the device behind the port that was
opened last. A session that is over holds none. While the operator may pick a port, nothing but the
opening of one changes the session, so that a port that does not open can be tried again, however
often. And whatever devices report when their links are closed, the session gets to the same state,
has the same effects and ends in the same way. -/
theorem links_balanced (setup : Setup) (files : FileTree) (operator : Operator)
    (happenings : List Happening) :
    let s := (started setup files operator).play setup happenings
    Ledger s.world.trace.effects s.session.link.isSome ∧
      (∀ link, s.session.link = some link →
        link.device = (wire setup files operator happenings).device) ∧
      (∀ outcome, s.session.outcome = some outcome → s.session.link = none ∧
        opens s.world.trace.effects = closes s.world.trace.effects) ∧
      (∀ text failure, s.Allows (.line text) → s.session.state = .awaitTransportSelect →
        setup.connector.connect s.world.trace (Text.trim text) setup.settings.baud =
          .error failure →
        (s.happen setup (.wake (.line text))).session = s.session ∧
          (s.happen setup (.wake (.line text))).world.trace.effects = s.world.trace.effects ++
            [.opening (Text.trim text) setup.settings.baud,
              .shown (Session.errorLine failure)]) ∧
      (s.session.outcome = none → s.session.state = .awaitTransportSelect → ∀ later, ∃ new,
        (s.play setup later).world.trace.effects = s.world.trace.effects ++ new ∧
          ((∀ e ∈ new, ¬ e.IsOpened) → (s.play setup later).session = s.session)) ∧
      ∀ close : Trace → Except Failure Unit,
        (started (setup.parting close) files operator).play (setup.parting close) happenings =
            s.parting close ∧
          (s.parting close).ending? = s.ending? := by
  intro s
  have hsound : s.session.Sound := sound_play setup files operator happenings
  have hledger : Ledger s.world.trace.effects s.session.link.isSome :=
    (holds_play setup files operator happenings).ledger
  refine ⟨hledger, fun link hlink => device_of_link setup files operator happenings hlink,
    fun outcome houtcome => ?_, fun text failure => happen_of_refused, fun houtcome hstate later =>
      play_of_not_opened (hsound.coherent houtcome) houtcome hstate setup later,
    fun close => ⟨?_, rfl⟩⟩
  · cases hsound with
    | goesOn hnone _ =>
      rw [houtcome] at hnone
      cases hnone
    | ended _ hlink =>
      have hbalance := hledger.balance
      rw [hlink] at hbalance
      exact ⟨hlink, hbalance⟩
  · have hstarted : started (setup.parting close) files operator =
        (started setup files operator).parting close := rfl
    rw [hstarted, play_parting]

end Stage

end BringUp
