import BringUp.Proofs.Pattern.Names
import BringUp.Proofs.Step.Expectation
import BringUp.Proofs.Text.Parts
import BringUp.Step.Run

/-!
# Referring to a captured group

A group that took part in a match is a variable, and a command refers to it by its name in braces
after a dollar sign. Two readers read such references. The check of a variable takes any name up to
the closing brace. Substitution takes word characters alone, while the name of a group may also
have dots, brackets and numbers that are no digits. So a check reaches every captured group, and the
other commands reach those with a name of word characters; the reference to another one stays in
the command as it is written.

* `Variables.substitute_reference`: what becomes of a reference wherever it stands.
* `Variables.read_of_reference`: what a check reads from it.
* `Variables.Seen`: what the commands see of a variable.
* `Variables.captured_seen`: how the later commands see a group that was captured.
-/

namespace BringUp

namespace Variables

open Pattern (IsGroupName)

variable {name value : String}

/-- The reference to a variable: its name in braces after a dollar sign. -/
def reference (name : String) : String := String.ofList (Text.Piece.reference name.toList).spell

/-- What a command has in the place of a reference to a variable with a value. Only a name of word
characters is taken for a name there. -/
def replacement (name value : String) : String :=
  if name.toList.all Unicode.isWord then value else reference name

/-- A reference is replaced wherever it stands, and what stands around it is read as if it stood
alone. -/
theorem substitute_reference {v : Variables} (hname : IsGroupName name)
    (hvalue : v.get? name = some value) (left right : String) :
    v.substitute (left ++ reference name ++ right) =
      v.substitute left ++ replacement name value ++ v.substitute right := by
  have hbrace : '\x7d' ∉ name.toList := hname.notMem (by decide)
  have hdollar : '$' ∉ name.toList := hname.notMem (by decide)
  -- What stands before the reference is read up to its dollar sign, so this is about the rest.
  have hread : (Text.templatePieces Unicode.isWord
      ((Text.Piece.reference name.toList).spell ++ right.toList)).flatMap v.expand =
      (replacement name value).toList ++
        (Text.templatePieces Unicode.isWord right.toList).flatMap v.expand := by
    unfold replacement
    split
    · next hword =>
      rw [Text.templatePieces_spell hname.ne_nil hword (by decide)]
      simp [expand, hvalue]
    · next hword =>
      rw [Text.templatePieces_spell_plain (by simpa using hword) hdollar hbrace]
      simp [expand, reference, List.flatMap_map]
  have htext : (left ++ reference name ++ right).toList =
      left.toList ++ ((Text.Piece.reference name.toList).spell ++ right.toList) := by
    simp [reference]
  rw [substitute, htext, Text.templatePieces_append_spell (by decide), List.flatMap_append, hread]
  simp [substitute, String.append_assoc]

/-- What the commands see of a variable with a value. -/
structure Seen (v : Variables) (name value : String) : Prop where
  /-- Substitution puts the replacement wherever the reference stands. -/
  substituted : ∀ left right, v.substitute (left ++ reference name ++ right) =
    v.substitute left ++ replacement name value ++ v.substitute right
  /-- A line of a kind that substitutes is read with the replacement in it. -/
  replaced : ∀ left right,
    let line := left ++ reference name ++ right
    let kind := StepKind.ofLine line.toList
    kind.substitutes = true →
      Step.ofLine line v = Step.read (String.ofList
        ((v.substitute left ++ replacement name value ++ v.substitute right).toList.drop
          kind.mark.length)) kind
  /-- A check of the variable against a text finds it by the reference. -/
  compared : ∀ expected, '|' ∉ expected.toList →
    Step.ofLine ("^" ++ (reference name ++ ":" ++ expected)) v =
      .ok (.checkVariable { variableName := name, expect := .exact expected })
  /-- A check of the variable against a pattern finds it by the reference. -/
  matched : ∀ source p, Expectation.readPattern source.toList = .ok p →
    Step.ofLine ("^" ++ (reference name ++ "|" ++ source)) v =
      .ok (.checkVariable { variableName := name, expect := .pattern p })
  /-- A check of the variable is one of its value. -/
  checked : ∀ expect, VariableCheck.run { variableName := name, expect } v =
    (expect.check value).map fun _ => .proceed

/-- A reference to a name has the operators that the name has. -/
theorem notMem_reference {c : Char} (hname : c ∉ name.toList) (hmark : c ∉ ['$', '\x7b', '\x7d']) :
    c ∉ (reference name).toList := by
  simp_all [reference, Text.Piece.spell]

/-- A line that starts with the mark of a check is read as one, as it stands. -/
theorem ofLine_check (body : String) (v : Variables) :
    Step.ofLine ("^" ++ body) v = (VariableCheck.read body).map .checkVariable := by
  simp [Step.ofLine, StepKind.ofLine, StepKind.substitutes, StepKind.mark, Step.read]

/-- A check of a variable takes any name that a closing brace ends. -/
theorem read_of_reference {body : String} {expect : Expectation} (hne : name.toList ≠ [])
    (hclose : '\x7d' ∉ name.toList)
    (hbody : Expectation.Written body.toList (reference name).toList expect) :
    VariableCheck.read body = .ok { variableName := name, expect } := by
  have hall : name.toList.all VariableCheck.inName = true := by
    simp only [List.all_eq_true, VariableCheck.inName, decide_eq_true_eq]
    rintro c hc rfl
    exact hclose hc
  have hfirst : Text.firstReference? VariableCheck.inName (reference name).toList =
      some name.toList := by
    have hspell := Text.firstReference?_spell hne hall (by decide) []
    rwa [List.append_nil, ← String.toList_ofList (l := (Text.Piece.reference name.toList).spell)]
      at hspell
  simp only [VariableCheck.read, Expectation.split_eq_ok_iff.2 hbody, bind, Except.bind, hfirst,
    String.ofList_toList]

/-- A variable with the name of a group is seen by its reference. -/
theorem seen_of_get? {v : Variables} (hname : IsGroupName name)
    (hvalue : v.get? name = some value) : v.Seen name value where
  substituted := substitute_reference hname hvalue
  replaced left right hkind := by
    simp only [Step.ofLine, hkind, if_true, substitute_reference hname hvalue]
  compared expected hexpected := by
    have hbar := notMem_reference (hname.notMem (c := '|') (by decide)) (by decide)
    have hcolon := notMem_reference (hname.notMem (c := ':') (by decide)) (by decide)
    have hwritten := Expectation.written_exact hbar hcolon hexpected
    rw [ofLine_check, read_of_reference hname.ne_nil (hname.notMem (by decide)) hwritten]
    rfl
  matched source p hp := by
    have hbar := notMem_reference (hname.notMem (c := '|') (by decide)) (by decide)
    have hcompile := Expectation.readPattern_eq_ok_iff.1 hp
    rw [String.ofList_toList] at hcompile
    have hwritten := Expectation.written_pattern hbar hcompile
    rw [ofLine_check, read_of_reference hname.ne_nil (hname.notMem (by decide)) hwritten]
    rfl
  checked expect := by simp [VariableCheck.run, hvalue]

variable {source text : String} {p : Pattern} {groups : List (String × String)}

/-- A group that took part in a match is a variable with the text that it matched, and as long as
the variable has this value every later command sees it by its reference: a check of the variable
as the value, any other command as the value if the name is one of word characters, else as the
reference itself. -/
theorem captured_seen (hp : Pattern.compile source = .ok p)
    (hmatch : p.captures? text = some groups) (hgroup : (name, value) ∈ groups)
    (store : Variables) :
    ∃ captured, store.capture? p text = some captured ∧ captured.get? name = some value ∧
      ∀ later : Variables, later.get? name = some value → later.Seen name value := by
  have hname := Pattern.isGroupName_of_captures? hp hmatch _ hgroup
  refine ⟨store.setAll groups, by simp [capture?, hmatch], ?_, fun later hvalue => ?_⟩
  · exact Table.get?_setAll_of_mem (Pattern.nodup_of_captures? hmatch) hgroup store
  · exact seen_of_get? hname hvalue

/-- A group with a name of word characters is seen as what it matched. -/
theorem captured_major_seen :
    ∃ p captured, Pattern.compile "v(?<major>7)" = .ok p ∧
      Variables.capture? p "v7" {} = some captured ∧ captured.get? "major" = some "7" ∧
      captured.Seen "major" "7" ∧ replacement "major" "7" = "7" := by
  have h : ((Pattern.compile "v(?<major>7)").toOption.bind (·.captures? "v7")) =
      some [("major", "7")] := by decide +kernel
  obtain ⟨p, hp, hmatch⟩ := Option.bind_eq_some_iff.1 h
  have hcompile := Pattern.compile_of_toOption hp
  obtain ⟨captured, hcaptured, hvalue, hseen⟩ :=
    captured_seen hcompile hmatch (List.mem_singleton_self _) {}
  exact ⟨p, captured, hcompile, hcaptured, hvalue, hseen captured hvalue, by decide⟩

/-- A group whose name has a dot is a variable with the text that it matched, but a command that
refers to it keeps the reference. -/
theorem dotted_kept :
    ∃ p captured, Pattern.compile "(?<fw.major>7)" = .ok p ∧
      Variables.capture? p "7" {} = some captured ∧ captured.get? "fw.major" = some "7" ∧
      captured.substitute "GET $\x7bfw.major\x7d" = "GET $\x7bfw.major\x7d" := by
  have h : ((Pattern.compile "(?<fw.major>7)").toOption.bind (·.captures? "7")) =
      some [("fw.major", "7")] := by decide +kernel
  obtain ⟨p, hp, hmatch⟩ := Option.bind_eq_some_iff.1 h
  have hcaptured : Variables.capture? p "7" {} =
      some (Table.setAll [("fw.major", "7")] {}) := by simp [capture?, hmatch]
  exact ⟨p, _, Pattern.compile_of_toOption hp, hcaptured, by decide, by decide⟩

end Variables

end BringUp
