import BringUp.Proofs.Engine.Account
import BringUp.Proofs.Script.CommandList
import BringUp.Proofs.Script.Sequence
import BringUp.Proofs.Step.Comparison
import BringUp.Proofs.Text.Octets
import BringUp.Proofs.Variables.Joints
import BringUp.Script.Load

/-!
# The line that an entry writes

What an entry writes to the device stands in its line of the script, behind the mark and with the
references replaced: all of the line, or the command of a comparison. The lines of a script that was
loaded have no line feed in them. So as long as no value has a line end in it, an entry writes a
single line, unless a value that starts with a line feed meets a carriage return.

* `Engine.Writes`: an entry has a line to write.
* `Step.mark_append_written`: where this line comes from.
* `Engine.HasLines`, `Engine.hasLines_of_loaded`: the lines of a script have no line feed in them.
* `Variables.Breaks`: a value that starts with a line feed meets a carriage return.
* `Engine.Writes.oneLine_iff`: when an entry writes a single line.
-/

namespace BringUp

/-- A line starts with the mark of its kind also when the references in it are replaced. -/
theorem Variables.mark_prefix_substitute (raw : String) (v : Variables) :
    (StepKind.ofLine raw.toList).mark <+: (v.substitute raw).toList := by
  obtain ⟨rest, hrest⟩ := StepKind.mark_prefix_ofLine raw.toList
  generalize StepKind.ofLine raw.toList = kind at hrest ⊢
  have hraw : raw = String.ofList kind.mark ++ String.ofList rest := by
    apply String.toList_injective
    simp [hrest]
  have hdollar : '$' ∉ (String.ofList kind.mark).toList := by
    simpa using kind.dollar_notMem_mark
  rw [hraw, substitute_append_plain hdollar]
  simp

/-- What a step writes stands behind the mark of its line, with the references replaced. -/
theorem Step.mark_append_written {raw line : String} {v : Variables} {s : Step}
    (hread : ofLine raw v = .ok s) (hwritten : s.written? = some line) :
    (StepKind.ofLine raw.toList).mark ++ line.toList <+: (v.substitute raw).toList := by
  cases s with
  | send text =>
    obtain ⟨hkind, rfl⟩ := ofLine_eq_send_iff.1 hread
    cases hwritten
    rw [hkind, StepKind.mark, List.nil_append]
  | compare c =>
    obtain ⟨hkind, hcomparison⟩ := ofLine_eq_compare_iff.1 hread
    cases hwritten
    obtain ⟨rest, hrest⟩ := v.mark_prefix_substitute raw
    have hfront := (Comparison.read_eq_ok_iff.1 hcomparison).command_front
    rw [hkind] at hrest ⊢
    rw [← hrest, String.toList_ofList] at hfront
    rw [← hrest]
    exact (List.prefix_append_right_inj _).2 hfront
  | pause text | print text | execute x | checkVariable check | invalid raw => cases hwritten

/-- In the line that is written of the line `raw` of a script, a value that starts with a line feed
stands behind a carriage return. -/
inductive Variables.Breaks (v : Variables) (raw line : String) : Prop where
  | intro {left name right front value rest : String} : IsWord name →
      raw = left ++ reference name ++ right →
      v.substitute left = String.ofList (StepKind.ofLine raw.toList).mark ++ front ++ "\r" →
      v.valueOf name = "\n" ++ value → line = front ++ lineEnd ++ rest → Breaks v raw line

namespace Engine

variable {tools : Tools} {e : Engine} {r : Rig} {raw line : String}

/-- The entry at the cursor has a line to write, and the line of the script that stands there is
`raw`. -/
def Writes (raw line : String) (e : Engine) (r : Rig) : Prop :=
  e.raw? = some raw ∧ (e.step? r).bind Step.written? = some line

/-- What an entry writes are the octets of a line that it has to write, and of a line end. -/
theorem writes_of_mem {octets : List UInt8} (h : .wrote octets ∈ e.newEffects tools r) :
    ∃ raw line, e.Writes raw line r ∧ octets = Link.octets line := by
  rw [newEffects_eq (e.effects_runNext tools r)] at h
  cases hstep : e.step? r with
  | none => simp [hstep] at h
  | some step =>
    obtain ⟨raw, hraw, -⟩ := step?_eq_some_iff.1 hstep
    obtain ⟨line, hline, rfl⟩ : ∃ line ∈ step.lines (e.trying r), Link.octets line = octets := by
      simpa [hstep, Step.doings, Effect.ofCall] using h
    rw [Step.lines, List.mem_filter, Option.mem_toList] at hline
    exact ⟨raw, line, ⟨hraw, by rw [hstep]; exact hline.1⟩, rfl⟩

/-- What an entry writes stands behind the mark of its line, with the references replaced. -/
theorem Writes.mark_append (h : e.Writes raw line r) :
    (StepKind.ofLine raw.toList).mark ++ line.toList <+: (r.bindings.substitute raw).toList := by
  obtain ⟨hraw, hwritten⟩ := h
  obtain ⟨step, hstep, hwritten⟩ := Option.bind_eq_some_iff.1 hwritten
  obtain ⟨raw', hraw', hread⟩ := step?_eq_some_iff.1 hstep
  obtain rfl : raw = raw' := Option.some.inj (hraw.symm.trans hraw')
  exact Step.mark_append_written hread hwritten

/-- The lines of a sequence are lines: no line feed stands in them. -/
def HasLines (e : Engine) : Prop :=
  ∀ entry ∈ e.entries, ∀ line, e.line entry = .ok line → '\n' ∉ line.toList

/-- What is loaded from files has lines. -/
theorem hasLines_of_loaded {files : FileTree} {commandList sequence : String}
    {commands : List String} {entries : List Script.Entry}
    (hcommands : files.loadCommandList commandList = .ok commands)
    (hentries : files.loadSequence sequence = .ok entries) :
    HasLines { commands, entries } := by
  intro entry hentry line hline
  cases entry with
  | command index =>
    obtain ⟨content, -, rfl⟩ := map_eq_ok_iff.1 hcommands
    simp only [Engine.line] at hline
    split at hline
    · next command hcommand =>
      cases hline
      exact Script.feed_notMem_commandList _ (List.mem_of_getElem? hcommand)
    · cases hline
  | directive text =>
    cases hline
    unfold FileTree.loadSequence at hentries
    split at hentries
    · cases hentries
    · next content _ =>
      cases hread : Script.readSequence content with
      | error failure =>
        rw [hread] at hentries
        cases hentries
      | ok read =>
        rw [hread] at hentries
        cases hentries
        exact (Script.readSequence_eq_ok_iff.1 hread).2.feed_notMem _ hentry

/-- The line of the script of an entry that writes has no line feed in it. -/
theorem HasLines.feed_notMem (h : e.HasLines) (hraw : e.raw? = some raw) : '\n' ∉ raw.toList := by
  obtain ⟨entry, hentry, hline⟩ := raw?_eq_some_iff.1 hraw
  exact h entry (List.mem_of_getElem? hentry) raw hline

/-- As long as no value has a line end in it, an entry writes a single line exactly if no value that
starts with a line feed meets a carriage return in it. -/
theorem Writes.oneLine_iff (h : e.Writes raw line r) (hlines : e.HasLines)
    (hvalues : ∀ name, ¬ ['\r', '\n'] <:+: (r.bindings.valueOf name).toList) :
    Text.Utf8.OneLine (Link.octets line) ↔ ¬ r.bindings.Breaks raw line := by
  rw [Link.octets, Text.Utf8.oneLine_encode_iff, not_iff_not]
  constructor
  · rintro ⟨front, rest, hline⟩
    -- The line end stands in the line of the script as well, behind the mark.
    have hfront : (StepKind.ofLine raw.toList).mark ++ front ++ ['\r', '\n'] <+:
        (r.bindings.substitute raw).toList := by
      refine List.IsPrefix.trans ?_ h.mark_append
      exact ⟨rest, by simp [← hline]⟩
    obtain ⟨left, name, right, hname, hsplit, hleft, hvalue⟩ :=
      Variables.joint_of_neighbours (hlines.feed_notMem h.1) hvalues hfront
    obtain ⟨value, hvalue⟩ := List.head?_eq_some_iff.1 hvalue
    refine @Variables.Breaks.intro _ _ _ left name right (String.ofList front)
      (String.ofList value) (String.ofList rest) hname hsplit ?_ ?_ ?_
    · exact String.toList_injective (by simp [hleft])
    · exact String.toList_injective (by simp [hvalue])
    · exact String.toList_injective (by simp [← hline, lineEnd])
  · intro hbreaks
    cases hbreaks with
    | @intro _ _ _ front _ rest _ _ _ _ hline =>
      exact ⟨front.toList, rest.toList, by simp [hline, lineEnd]⟩

end Engine

end BringUp
