import BringUp.Proofs.Text.Parts
import BringUp.Step

/-!
# The kind of a line

The kind of a step is told by the raw line alone, whatever the variables hold: by the first mark
that the line starts with, in a fixed order. No mark has a dollar sign, so substitution leaves the
mark in its place and goes on behind it. The body of the line may therefore be cut off before or
after the references are replaced.

* `StepKind.ofLine_eq_find`: the first matching mark tells the kind.
* `Variables.substitute_append_plain`: substitution behind a text without a dollar sign.
* `Step.kind_of_ofLine`: a step has the kind of its line.
* `Step.ofLine_append`: how a line is read behind its mark.
* `Step.kind_told_by_line`: all of this for every line and all variables.
-/

namespace BringUp

namespace StepKind

/-- The kinds with a mark, in the order in which their marks are looked for. -/
def marked : List StepKind := [.pause, .print, .execute, .compare, .checkVariable]

/-- A line that is not empty has the first kind with whose mark it starts, or is written to the
device. -/
theorem ofLine_eq_find {cs : List Char} (h : cs ≠ []) :
    ofLine cs = (marked.find? fun kind => kind.mark.isPrefixOf cs).getD .send := by
  unfold ofLine
  split
  · exact absurd rfl h
  · simp [marked, mark]
  · -- A second number sign would make it a pause.
    rename_i tail hpause
    have hsecond : ['#'].isPrefixOf tail = false := by
      cases tail with
      | nil => rfl
      | cons c tail =>
        have hc : '#' ≠ c := fun heq => hpause tail (by rw [heq])
        simp [List.isPrefixOf, hc]
    simp [marked, mark, List.isPrefixOf, hsecond]
  · simp [marked, mark, List.isPrefixOf]
  · simp [marked, mark, List.isPrefixOf]
  · simp [marked, mark, List.isPrefixOf]
  · rename_i c _ _ hprint hexecute hcompare hcheck
    have hne {d : Char} (h : c ≠ d) : (d == c) = false := beq_eq_false_iff_ne.2 (Ne.symm h)
    simp [marked, mark, List.isPrefixOf, hne hprint, hne hexecute, hne hcompare,
      hne hcheck]

/-- A line starts with the mark of its kind. -/
theorem mark_prefix_ofLine (cs : List Char) : (ofLine cs).mark <+: cs := by
  unfold ofLine
  split <;> simp [mark]

/-- No mark has a dollar sign. -/
theorem dollar_notMem_mark (kind : StepKind) : '$' ∉ kind.mark := by
  cases kind <;> decide

end StepKind

/-- A text without a dollar sign stays in its place, and what follows is read by itself. -/
theorem Variables.substitute_append_plain {left : String} (h : '$' ∉ left.toList) (right : String)
    (v : Variables) : v.substitute (left ++ right) = left ++ v.substitute right := by
  have hleft : (left.toList.map Text.Piece.char).flatMap v.expand = left.toList := by
    simp [List.flatMap_map, expand]
  apply String.toList_injective
  simp [substitute, Text.templatePieces_append_plain h, hleft]

/-- Behind the front of a text lies a boundary between two characters, and there the rest is cut
off. -/
theorem Text.exists_cut {text front rest : String} (h : text = front ++ rest) :
    ∃ cut : text.Pos, cut.offset = front.rawEndPos ∧ (text.sliceFrom cut).copy = rest := by
  have hvalid : front.rawEndPos.IsValid text :=
    String.Pos.Raw.isValid_iff_exists_append.2 ⟨front, rest, h, rfl⟩
  refine ⟨⟨front.rawEndPos, hvalid⟩, rfl, ?_⟩
  exact (String.Pos.splits _).eq_right ⟨h, rfl⟩

namespace Step

variable {raw : String} {v : Variables} {s : Step}

/-- A step has the kind of its line. -/
theorem kind_of_ofLine (h : ofLine raw v = .ok s) : s.kind = StepKind.ofLine raw.toList := by
  have hmap {α : Type} {reading : Except StepError α} {f : α → Step} {kind : StepKind}
      (hf : ∀ a, (f a).kind = kind) (h : reading.map f = .ok s) : s.kind = kind := by
    cases reading with
    | error error => cases h
    | ok a =>
      cases h
      exact hf a
  unfold ofLine at h
  simp only at h
  revert h
  generalize String.ofList _ = body
  cases StepKind.ofLine raw.toList with
  | execute => exact hmap fun _ => rfl
  | compare => exact hmap fun _ => rfl
  | checkVariable => exact hmap fun _ => rfl
  | pause | print | send | invalid =>
    intro h
    cases h
    rfl

/-- A line is read behind the mark of its kind, where the references are replaced if they are in
lines of this kind. -/
theorem ofLine_append {rest : String} {kind : StepKind}
    (hkind : StepKind.ofLine raw.toList = kind) (hraw : raw = String.ofList kind.mark ++ rest)
    (v : Variables) :
    ofLine raw v = read (if kind.substitutes then v.substitute rest else rest) kind := by
  have hdollar : '$' ∉ (String.ofList kind.mark).toList := by
    simpa using kind.dollar_notMem_mark
  have hcut (body : String) :
      String.ofList ((String.ofList kind.mark ++ body).toList.drop kind.mark.length) = body := by
    rw [String.toList_append, String.toList_ofList, List.drop_left, String.ofList_toList]
  unfold ofLine
  rw [hkind]
  simp only
  split
  · rw [hraw, Variables.substitute_append_plain hdollar, hcut]
  · rw [hraw, hcut]

/-- The kind of a line is told by the raw line alone: it is invalid if it is empty, else its kind is
that of the first mark with which it starts, else it is to be sent. Whatever the variables hold, a
step that is read has this kind. Behind the mark, the line with its references replaced goes on with
the replaced rest, which a cut at the end of the mark gives, and of this the step is read; only a
check of a variable is read of the rest as it stands. A line that is no check is always read. -/
theorem kind_told_by_line (raw : String) :
    let kind := StepKind.ofLine raw.toList
    let mark := String.ofList kind.mark
    (kind = if raw = "" then .invalid
      else (StepKind.marked.find? fun kind => kind.mark.isPrefixOf raw.toList).getD .send) ∧
    (∀ v s, ofLine raw v = .ok s → s.kind = kind) ∧
    (∀ v v' s s', ofLine raw v = .ok s → ofLine raw v' = .ok s' → s.kind = s'.kind) ∧
    (kind.isCheck = false → ∀ v, ∃ s, ofLine raw v = .ok s) ∧
    ∃ rest, raw = mark ++ rest ∧ ∀ v : Variables,
      (∃ cut : (v.substitute raw).Pos, cut.offset = mark.rawEndPos ∧
        ((v.substitute raw).sliceFrom cut).copy = v.substitute rest) ∧
      ofLine raw v = match kind with
        | .pause => .ok (.pause (v.substitute rest))
        | .print => .ok (.print (v.substitute rest))
        | .execute => (Execution.read (v.substitute rest)).map .execute
        | .compare => (Comparison.read (v.substitute rest)).map .compare
        | .checkVariable => (VariableCheck.read rest).map .checkVariable
        | .send => .ok (.send (v.substitute raw))
        | .invalid => .ok (.invalid raw) := by
  intro kind mark
  have hof : StepKind.ofLine raw.toList = kind := rfl
  clear_value kind
  have hkind (v : Variables) (s : Step) (h : ofLine raw v = .ok s) : s.kind = kind :=
    (kind_of_ofLine h).trans hof
  obtain ⟨rest, hrest⟩ := hof ▸ StepKind.mark_prefix_ofLine raw.toList
  have hraw : raw = mark ++ String.ofList rest := by
    apply String.toList_injective
    simp [mark, hrest]
  have hdollar : '$' ∉ mark.toList := by
    simpa [mark] using kind.dollar_notMem_mark
  -- A line without a mark is its own rest.
  have hself (hmark : kind.mark = []) : raw = String.ofList rest := by
    rw [hraw]
    simp [mark, hmark]
  refine ⟨?_, hkind, fun v v' s s' h h' => (hkind v s h).trans (hkind v' s' h').symm, ?_,
    String.ofList rest, hraw, fun v => ⟨?_, ?_⟩⟩
  · rw [← hof]
    split
    · next hempty => simp [hempty, StepKind.ofLine]
    · next hempty => exact StepKind.ofLine_eq_find (by simpa using hempty)
  · intro hcheck v
    rw [ofLine_append hof hraw]
    cases kind with
    | execute | compare | checkVariable => cases hcheck
    | pause | print | send | invalid => exact ⟨_, rfl⟩
  · refine Text.exists_cut ?_
    rw [← Variables.substitute_append_plain hdollar, ← hraw]
  · rw [ofLine_append hof hraw]
    cases kind with
    | pause | print | execute | compare | checkVariable => rfl
    | send | invalid => rw [hself rfl]; rfl

end Step

end BringUp
