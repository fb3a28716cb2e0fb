import BringUp.Proofs.Engine.Effects
import BringUp.Session
import Mathlib.Data.List.Range

/-!
# The connections of a run

The effects of a run fall into connections: each opening of a link starts one. What is done in a
connection is looked at up to the next opening.

* `Effect.InOrder`: a connection in which the steps are tried one after the other.
* `Effect.AllInOrder.concat`, `Effect.AllInOrder.append`: it is enough to look at the latest
  connection when something is done.
-/

namespace BringUp

namespace Effect

/-- The step that an effect tries. -/
def tried? : Effect → Option Nat
  | .tried index => some index
  | _ => none

/-- The file that an effect reads. -/
def read? : Effect → Option String
  | .read path => some path
  | _ => none

/-- The opening of a link. -/
def IsOpened : Effect → Prop
  | .opened _ => True
  | _ => False

/-- What a step does, apart from showing lines. -/
def IsAction : Effect → Prop
  | .tried _ | .called _ _ _ | .wrote _ => True
  | _ => False

/-- An effect that opens no link, tries no step and reads no file. -/
def IsAside : Effect → Prop
  | .opened _ | .tried _ | .read _ => False
  | _ => True

variable {setup : Setup} {es new since : List Effect} {e : Effect}

theorem IsAside.not_isOpened (h : e.IsAside) : ¬ e.IsOpened := by
  cases e with
  | opened _ => exact h.elim
  | _ => exact id

theorem IsAside.tried?_eq (h : e.IsAside) : e.tried? = none := by
  cases e with
  | tried _ => exact h.elim
  | _ => rfl

theorem IsAside.read?_eq (h : e.IsAside) : e.read? = none := by
  cases e with
  | read _ => exact h.elim
  | _ => rfl

/-- A step does nothing but asides, once it has been tried. -/
theorem IsOfStep.isAside (h : e.IsOfStep) : e.IsAside := by
  cases e with
  | shown _ | wrote _ | called _ _ _ => trivial
  | _ => exact h.elim

/-- Asides do not try any step. -/
theorem filterMap_tried?_aside (h : ∀ e ∈ new, e.IsAside) : new.filterMap tried? = [] :=
  List.filterMap_eq_nil_iff.2 fun e he => (h e he).tried?_eq

/-- Asides do not read any file. -/
theorem filterMap_read?_aside (h : ∀ e ∈ new, e.IsAside) : new.filterMap read? = [] :=
  List.filterMap_eq_nil_iff.2 fun e he => (h e he).read?_eq

/-! ### The order of a connection -/

/-- Since a link was opened, the steps were tried in order, each of them once and none left out, and
each of the two files was read at most once. -/
structure InOrder (setup : Setup) (es : List Effect) : Prop where
  /-- The steps. -/
  tries : ∃ n, es.filterMap tried? = List.range n
  /-- The files. -/
  reads : es.filterMap read? <+: [setup.settings.commandList, setup.settings.commandSequence]

/-- What has happened since a link was last opened. -/
def Latest (es since : List Effect) : Prop :=
  ∃ before link, es = before ++ .opened link :: since ∧ ∀ e ∈ since, ¬ e.IsOpened

/-- All connections are in order. -/
def AllInOrder (setup : Setup) (es : List Effect) : Prop :=
  ∀ before link during after, es = before ++ .opened link :: (during ++ after) →
    (∀ e ∈ during, ¬ e.IsOpened) → InOrder setup during

/-- The start of a connection in order is in order. -/
theorem InOrder.of_append (h : InOrder setup (es ++ new)) : InOrder setup es := by
  obtain ⟨⟨n, hn⟩, hreads⟩ := h
  rw [List.filterMap_append] at hn hreads
  refine ⟨⟨min (es.filterMap tried?).length n, ?_⟩, (List.prefix_append _ _).trans hreads⟩
  -- What counts up from the first step does so wherever it is cut off.
  have htake := congrArg (List.take (es.filterMap tried?).length) hn
  rwa [List.take_left, List.take_range] at htake

/-- Asides do not matter to the order. -/
theorem InOrder.aside (h : InOrder setup es) (hnew : ∀ e ∈ new, e.IsAside) :
    InOrder setup (es ++ new) := by
  obtain ⟨⟨n, hn⟩, hreads⟩ := h
  refine ⟨⟨n, ?_⟩, ?_⟩
  · rw [List.filterMap_append, filterMap_tried?_aside hnew, List.append_nil, hn]
  · rwa [List.filterMap_append, filterMap_read?_aside hnew, List.append_nil]

/-- Two lists that end in the same way are the same before. -/
theorem eq_and_eq_of_concat {before init : List Effect} {link : String} {last : Effect}
    (h : es ++ [e] = before ++ .opened link :: (init ++ [last])) :
    es = before ++ .opened link :: init ∧ e = last := by
  have h' : es ++ [e] = (before ++ .opened link :: init) ++ [last] := by
    rw [h, List.append_assoc, List.cons_append]
  exact ⟨List.append_inj_left' h' rfl, List.singleton_inj.1 (List.append_inj_right' h' rfl)⟩

/-- Right after a link is opened nothing has happened. -/
theorem Latest.of_opened {link : String} (h : Latest (es ++ [.opened link]) since) :
    since = [] := by
  obtain ⟨before, link', heq, hsince⟩ := h
  rcases List.eq_nil_or_concat' since with rfl | ⟨init, last, rfl⟩
  · rfl
  · obtain ⟨-, rfl⟩ := eq_and_eq_of_concat heq
    exact absurd trivial (hsince _ (List.mem_append_right _ List.mem_cons_self))

/-- What happens next has happened since. -/
theorem Latest.of_concat (he : ¬ e.IsOpened) (h : Latest (es ++ [e]) since) :
    ∃ since', since = since' ++ [e] ∧ Latest es since' := by
  obtain ⟨before, link, heq, hsince⟩ := h
  rcases List.eq_nil_or_concat' since with rfl | ⟨init, last, rfl⟩
  · obtain rfl : e = .opened link := List.singleton_inj.1 (List.append_inj_right' heq rfl)
    exact absurd trivial he
  · obtain ⟨hes, rfl⟩ := eq_and_eq_of_concat heq
    exact ⟨init, rfl, before, link, hes, fun e hmem => hsince e (List.mem_append_left _ hmem)⟩

/-- What happens next, without a link being opened, has happened since. -/
theorem Latest.of_append (hnew : ∀ e ∈ new, ¬ e.IsOpened) (h : Latest (es ++ new) since) :
    ∃ since', since = since' ++ new ∧ Latest es since' := by
  induction new generalizing es with
  | nil => exact ⟨since, by simp, by simpa using h⟩
  | cons e new ih =>
    rw [List.append_cons] at h
    obtain ⟨middle, rfl, hmiddle⟩ := ih (fun e he => hnew e (List.mem_cons_of_mem _ he)) h
    obtain ⟨since', rfl, hsince⟩ := hmiddle.of_concat (hnew e List.mem_cons_self)
    exact ⟨since', by simp, hsince⟩

/-- The latest connection is one of all. -/
theorem AllInOrder.latest (h : AllInOrder setup es) (hsince : Latest es since) :
    InOrder setup since := by
  obtain ⟨before, link, heq, hopened⟩ := hsince
  exact h before link since [] (by rw [heq, List.append_nil]) hopened

/-- One more effect, which opens a link or is in order. -/
theorem AllInOrder.concat (h : AllInOrder setup es)
    (he : e.IsOpened ∨ ∀ since, Latest es since → InOrder setup (since ++ [e])) :
    AllInOrder setup (es ++ [e]) := by
  intro before link during after heq hduring
  -- The new effect is behind the connection, or it is the last one of it.
  rcases List.eq_nil_or_concat' after with rfl | ⟨init, last, rfl⟩
  · rw [List.append_nil] at heq
    rcases List.eq_nil_or_concat' during with rfl | ⟨init, last, rfl⟩
    · exact ⟨⟨0, rfl⟩, List.nil_prefix⟩
    · obtain ⟨hes, rfl⟩ := eq_and_eq_of_concat heq
      have hlast := hduring e (List.mem_append_right _ List.mem_cons_self)
      exact he.resolve_left hlast init
        ⟨before, link, hes, fun e hmem => hduring e (List.mem_append_left _ hmem)⟩
  · rw [← List.append_assoc] at heq
    exact h before link during init (eq_and_eq_of_concat heq).1 hduring

/-- More effects, which open no link and continue the latest connection in order. -/
theorem AllInOrder.append (h : AllInOrder setup es) (hnew : ∀ e ∈ new, ¬ e.IsOpened)
    (hlatest : ∀ since, Latest es since → InOrder setup (since ++ new)) :
    AllInOrder setup (es ++ new) := by
  induction new generalizing es with
  | nil => rwa [List.append_nil]
  | cons e new ih =>
    have hmore (since : List Effect) (hsince : Latest es since) :
        InOrder setup ((since ++ [e]) ++ new) := by
      rw [List.append_assoc]
      exact hlatest since hsince
    -- The first new effect is the end of a connection in order, because all of them are.
    rw [List.append_cons]
    refine ih (h.concat (.inr fun since hsince => (hmore since hsince).of_append))
      (fun e he => hnew e (List.mem_cons_of_mem _ he)) fun since hsince => ?_
    obtain ⟨since', rfl, hsince'⟩ := hsince.of_concat (hnew e List.mem_cons_self)
    exact hmore since' hsince'

/-- Asides do not matter to the order of any connection. -/
theorem AllInOrder.aside (h : AllInOrder setup es) (hnew : ∀ e ∈ new, e.IsAside) :
    AllInOrder setup (es ++ new) :=
  h.append (fun e he => (hnew e he).not_isOpened) fun _ hsince => (h.latest hsince).aside hnew

end Effect

end BringUp
