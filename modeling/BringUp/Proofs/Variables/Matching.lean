import BringUp.Proofs.Engine.Capture
import BringUp.Proofs.Pattern.Fitting
import BringUp.Proofs.Pattern.Leftmost
import Mathlib.Data.List.Basic

/-!
# Matching and capturing agree

A pattern is asked in two ways: whether it matches, and what its groups match. Both give the same
answer, so a check that captures accepts what a check that does not capture accepts, and a step
always captures from a line that its wait has found. What is captured is told by the leftmost and
most preferred match: each named group that took part in it gives its text to the variable of that
name, and all other variables keep their values.

* `Pattern.isMatch_eq_isSome`: both ways of asking agree.
* `Pattern.isMatch_iff`, `Pattern.captures?_eq_some_iff`: what they tell about the text.
* `Variables.get?_of_capture?`: the value of every variable after a capture.
* `Comparison.run_of_matched`: a step captures from the line that its wait has found.
* `Pattern.capture_agrees_with_match`: the agreement as a whole.
-/

namespace BringUp

namespace Pattern

variable {source text : String} {p : Pattern} {way : List Spot}

/-- Some part of a text fits an expression. -/
def Expr.FitsIn (e : Expr) (text : String) : Prop :=
  ∃ i ≤ text.length, ∃ j, e.Fits text.toList.toArray i j

/-- The leftmost and most preferred match of a pattern is along a way. -/
def MatchesAlong (p : Pattern) (text : String) (way : List Spot) : Prop :=
  ∃ place, p.program.LeftmostFirst text.toList.toArray place way

/-- The text that a way matches by the group of a name, if there is such a group and the way passes
both of its ends. -/
def namedGroup? (p : Pattern) (text : String) (way : List Spot) (name : String) : Option String :=
  (p.names.lookup name).bind (p.program.group? text.toList.toArray way)

/-- A pattern matches along one way only. -/
theorem MatchesAlong.unique {way' : List Spot} (h : p.MatchesAlong text way)
    (h' : p.MatchesAlong text way') : way = way' := by
  obtain ⟨_, hfirst⟩ := h
  obtain ⟨_, hfirst'⟩ := h'
  exact hfirst.unique hfirst'

/-- The program of a compiled pattern is that of the expression that was read. -/
theorem program_of_compile {parsed : Parser.Parsed} (hparse : Parser.parse source = .ok parsed)
    (h : compile source = .ok p) : p.program = .ofExpr parsed.expr := by
  rw [compile, hparse] at h
  simp only [bind, Except.bind] at h
  split at h
  · cases h
  · cases h
    rfl

/-- The program of a compiled pattern is closed and starts at one of its nodes. -/
theorem closed_of_compile (h : compile source = .ok p) :
    Closed p.program.nodes ∧ p.program.start < p.program.nodes.size := by
  cases hparse : Parser.parse source with
  | error e =>
    rw [compile, hparse] at h
    cases h
  | ok parsed =>
    have hextends := Program.ofExpr_extends parsed.expr
    exact program_of_compile hparse h ▸ ⟨hextends.closed, hextends.start_lt⟩

/-- A pattern matches a text if it has groups to give, and only then. -/
theorem isMatch_eq_isSome (p : Pattern) (text : String) :
    p.isMatch text = (p.captures? text).isSome := by
  rw [isMatch, captures?, Option.isSome_map]
  exact Program.isSome_search 0 p.captures

/-- A pattern matches a text if some part of the text fits the expression that was read. -/
theorem isMatch_iff {parsed : Parser.Parsed} (hparse : Parser.parse source = .ok parsed)
    (h : compile source = .ok p) : p.isMatch text = true ↔ parsed.expr.FitsIn text := by
  obtain ⟨hclosed, hstart⟩ := closed_of_compile h
  have hlength : text.toList.toArray.size = text.length := String.length_toList
  rw [← Bool.not_eq_false, isMatch, Option.isSome_eq_false_iff, Option.isNone_iff_eq_none,
    Program.search_eq_none_iff hclosed hstart, hlength, Expr.FitsIn, program_of_compile hparse h]
  simp only [not_forall, not_not, exists_prop, Program.exists_way_iff_fits]

/-- The groups that a match gives are those with a name that took part in it. -/
theorem captures?_eq_some_iff (h : compile source = .ok p) {groups : List (String × String)} :
    p.captures? text = some groups ↔ ∃ way, p.MatchesAlong text way ∧
      groups = p.names.filterMap fun (name, index) =>
        (p.program.group? text.toList.toArray way index).map (name, ·) := by
  obtain ⟨hclosed, hstart⟩ := closed_of_compile h
  have hgroups : ∀ way : List Spot, (p.names.filterMap fun (name, index) => (groupText?
      text.toList.toArray (p.program.record way (Array.replicate (2 * p.captures + 2) none))
      index).map (name, ·)) = p.names.filterMap fun (name, index) =>
        (p.program.group? text.toList.toArray way index).map (name, ·) := by
    intro way
    refine List.filterMap_congr fun entry hentry => ?_
    simp only [Program.groupText?_record (named_of_compile h entry hentry).2]
  simp only [captures?, Option.map_eq_some_iff, Program.search_eq_some_iff hclosed hstart]
  constructor
  · rintro ⟨_, ⟨place, way, hfirst, rfl⟩, rfl⟩
    exact ⟨way, ⟨place, hfirst⟩, hgroups way⟩
  · rintro ⟨way, ⟨place, hfirst⟩, rfl⟩
    exact ⟨_, ⟨place, way, hfirst, rfl⟩, hgroups way⟩

/-- The text of a name among the groups that took part is that of its group. -/
theorem lookup_groups {names : List (String × Nat)} (distinct : (names.map Prod.fst).Nodup)
    (group? : Nat → Option String) (name : String) :
    (names.filterMap fun (name, index) => (group? index).map (name, ·)).lookup name =
      (names.lookup name).bind group? := by
  induction names with
  | nil => rfl
  | cons entry names ih =>
    obtain ⟨key, index⟩ := entry
    obtain ⟨hfresh, hrest⟩ := List.nodup_cons.1 distinct
    rw [List.lookup_cons, List.filterMap_cons]
    by_cases hname : name = key
    · subst hname
      rw [beq_self_eq_true]
      cases hgroup : group? index with
      | none =>
        -- A name stands for one group only, so that no later one gives a text to it.
        have hnone : names.lookup name = none := by
          rw [List.lookup_eq_none_iff]
          intro entry hentry
          refine bne_iff_ne.2 fun heq => hfresh ?_
          exact List.mem_map.2 ⟨entry, hentry, heq.symm⟩
        simp [hgroup, ih hrest, hnone]
      | some value => simp [hgroup]
    · have hbeq : (name == key) = false := beq_eq_false_iff_ne.2 hname
      cases hgroup : group? index with
      | none => simpa [hgroup, hbeq] using ih hrest
      | some value => simpa [hgroup, hbeq, List.lookup_cons] using ih hrest

end Pattern

/-- Setting distinct names gives these their values and no other. -/
theorem Table.get?_setAll {α : Type} {entries : List (String × α)}
    (distinct : (entries.map Prod.fst).Nodup) (name : String) (t : Table α) :
    (t.setAll entries).get? name = (entries.lookup name).or (t.get? name) := by
  cases hlookup : entries.lookup name with
  | none =>
    refine get?_setAll_of_notMem ?_ t
    intro hmem
    obtain ⟨entry, hentry, rfl⟩ := List.mem_map.1 hmem
    have hne := List.lookup_eq_none_iff.1 hlookup entry hentry
    exact bne_iff_ne.1 hne rfl
  | some value =>
    obtain ⟨before, after, rfl, -⟩ := List.lookup_eq_some_iff.1 hlookup
    exact get?_setAll_of_mem distinct (List.mem_append_right _ List.mem_cons_self) t

namespace Variables

variable {source text : String} {p : Pattern} {v v' : Variables}

/-- Nothing is captured if the pattern does not match, and only then. -/
theorem isSome_capture? (p : Pattern) (text : String) (v : Variables) :
    (v.capture? p text).isSome = p.isMatch text := by
  rw [capture?, Option.isSome_map, Pattern.isMatch_eq_isSome]

/-- After a capture each variable has the text that the match gives to the group of its name, if
there is such a group and it took part, and its old value if not. -/
theorem get?_of_capture? (hp : Pattern.compile source = .ok p) (h : v.capture? p text = some v') :
    ∃ way, p.MatchesAlong text way ∧ ∀ name, v'.get? name =
      (p.namedGroup? text way name).or (v.get? name) := by
  obtain ⟨groups, hgroups, rfl⟩ := Option.map_eq_some_iff.1 h
  have hdistinct := Pattern.nodup_of_captures? hgroups
  obtain ⟨way, hway, rfl⟩ := (Pattern.captures?_eq_some_iff hp).1 hgroups
  refine ⟨way, hway, fun name => ?_⟩
  rw [Table.get?_setAll hdistinct, Pattern.lookup_groups p.distinct, Pattern.namedGroup?]

end Variables

namespace Expectation

/-- A check that captures accepts what one that does not accepts, and refuses the rest alike. -/
theorem map_checkCapturing (actual : String) (v : Variables) (e : Expectation) :
    (e.checkCapturing actual v).map (fun _ => ()) = e.check actual := by
  have haccepts : (e.capture? actual v).isSome = e.accepts actual := by
    cases e with
    | exact expected => by_cases heq : actual = expected <;> simp [capture?, accepts, heq]
    | pattern p => exact v.isSome_capture? p actual
  rw [checkCapturing, check, ← haccepts]
  cases e.capture? actual v <;> rfl

end Expectation

namespace Reply

/-- A wait for a pattern that finds something finds a line that the pattern matches. -/
theorem Stream.isMatch_of_await {p : Pattern} {timeout now : Nat} {s : Stream} {found : Resolved}
    (h : (s.await (.pattern p) timeout now).1 = .resolved found) :
    ∃ line, found = .matched line ∧ p.isMatch line = true := by
  have hresolve := resolve?_awaitFrom (now + timeout) s.inbox.arrivals now s h
  obtain ⟨line, hfind, rfl⟩ := Option.map_eq_some_iff.1 hresolve
  exact ⟨line, rfl, List.find?_some hfind⟩

end Reply

/-- A request for a pattern that gets a reply gets a line that the pattern matches. -/
theorem Link.isMatch_of_request {l : Link} {t : Trace} {command : String} {p : Pattern}
    {timeout : Nat} {found : Reply.Resolved}
    (h : (l.request command (.pattern p) timeout t).1 = .ok found) :
    ∃ line, found = .matched line ∧ p.isMatch line = true := by
  cases hrespond : l.device.respond t (octets command) with
  | error failure =>
    rw [request_of_refused hrespond] at h
    cases h
  | ok emissions => exact Reply.Stream.isMatch_of_await (await_of_request hrespond h)

/-- A comparison with a pattern that gets a reply gets a line that the pattern matches. It succeeds
then, with what the pattern captures from that line. -/
theorem Comparison.run_of_matched {tools : Tools} {c : Comparison} {p : Pattern} {r : Rig}
    {found : Reply.Resolved} (hc : c.check = .pattern p)
    (h : (r.request c.command c.check.wait (c.check.timeout tools)).1 = .ok found) :
    ∃ line v', found = .matched line ∧ r.bindings.capture? p line = some v' ∧ c.run tools r =
      (.ok .proceed,
        { (r.request c.command c.check.wait (c.check.timeout tools)).2 with bindings := v' }) := by
  have hrequest : (r.link.request c.command (.pattern p) (c.check.timeout tools) r.trace).1 =
      .ok found := by
    rw [← h, hc]
    rfl
  obtain ⟨line, rfl, hmatch⟩ := Link.isMatch_of_request hrequest
  rw [← r.bindings.isSome_capture? p line] at hmatch
  obtain ⟨v', hv'⟩ := Option.isSome_iff_exists.1 hmatch
  refine ⟨line, v', rfl, hv', ?_⟩
  have hcapture : c.check.capture (.matched line) r.bindings = v' := by
    rw [hc, ReplyCheck.capture, hv', Option.getD_some]
  have haccept : c.check.accept (Reply.Resolved.matched line).toLines = .ok .proceed := by
    rw [hc, ReplyCheck.accept]
  unfold run
  simp only [h, haccept]
  rw [← hcapture]
  rfl

/-- Both ways of matching agree. A check that captures accepts and refuses what one that does not
capture does, with the same error, and a check that does not capture changes nothing; a step that
fails changes no variable. Nothing is captured from a text exactly if the pattern does not match it,
which means that no part of the text fits its expression. Otherwise there is one leftmost and most
preferred match, and a variable has the text of the group of its name, if this took part in the
match, and its old value if not. Where a wait for a pattern has found a line, the capture from that
line succeeds, and so does the step that waits, with what is captured. -/
theorem Pattern.capture_agrees_with_match :
    (∀ (e : Expectation) (actual : String) (v : Variables),
      (e.checkCapturing actual v).map (fun _ => ()) = e.check actual ∧
        ∀ error, e.check actual = .error error → error = .mismatch e.text actual) ∧
    (∀ (tools : Tools) (c : VariableCheck) (r : Rig),
      ((Step.checkVariable c).run tools r).2 = r) ∧
    (∀ (tools : Tools) (s : Step) (r : Rig) (error : StepError),
      (s.run tools r).1 = .error error → (s.run tools r).2.bindings = r.bindings) ∧
    (∀ (p : Pattern) (text : String) (v : Variables),
      v.capture? p text = none ↔ p.isMatch text = false) ∧
    (∀ (source : String) (parsed : Parser.Parsed) (p : Pattern),
      Parser.parse source = .ok parsed → compile source = .ok p →
      ∀ (text : String) (v : Variables), (p.isMatch text = true ↔ parsed.expr.FitsIn text) ∧
        ∀ v', v.capture? p text = some v' → ∃ way, p.MatchesAlong text way ∧
          (∀ other, p.MatchesAlong text other → other = way) ∧
          ∀ name, v'.get? name = (p.namedGroup? text way name).or (v.get? name)) ∧
    (∀ (p : Pattern) (s : Reply.Stream) (timeout now : Nat) (found : Reply.Resolved),
      (s.await (.pattern p) timeout now).1 = .resolved found →
        ∃ line, found = .matched line ∧ ∀ v : Variables, (v.capture? p line).isSome) ∧
    (∀ (tools : Tools) (c : Comparison) (p : Pattern) (r : Rig) (found : Reply.Resolved),
      c.check = .pattern p →
        (r.request c.command c.check.wait (c.check.timeout tools)).1 = .ok found →
        ∃ line v', found = .matched line ∧ r.bindings.capture? p line = some v' ∧
          c.run tools r = (.ok .proceed, { (r.request c.command c.check.wait
            (c.check.timeout tools)).2 with bindings := v' })) := by
  refine ⟨?_, ?_, ?_, ?_, ?_, ?_, ?_⟩
  · intro e actual v
    refine ⟨e.map_checkCapturing actual v, ?_⟩
    intro error herror
    rw [Expectation.check] at herror
    split at herror
    · cases herror
    · cases herror
      rfl
  · intro tools c r
    rfl
  · intro tools s r error herror
    exact Step.bindings_run_of_error (Prod.ext herror rfl)
  · intro p text v
    rw [← Option.isNone_iff_eq_none, ← Option.isSome_eq_false_iff, v.isSome_capture?]
  · intro source parsed p hparse hp text v
    refine ⟨isMatch_iff hparse hp, ?_⟩
    intro v' hv'
    obtain ⟨way, hway, hvalues⟩ := Variables.get?_of_capture? hp hv'
    exact ⟨way, hway, fun other hother => hother.unique hway, hvalues⟩
  · intro p s timeout now found hfound
    obtain ⟨line, rfl, hmatch⟩ := Reply.Stream.isMatch_of_await hfound
    refine ⟨line, rfl, fun v => ?_⟩
    rw [v.isSome_capture?, hmatch]
  · intro tools c p r found hc hfound
    exact Comparison.run_of_matched hc hfound

end BringUp
