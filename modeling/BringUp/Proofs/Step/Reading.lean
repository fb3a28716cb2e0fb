import BringUp.Proofs.Step.Expectation
import BringUp.Proofs.Text.Factoring
import BringUp.Proofs.Text.Words
import BringUp.Proofs.Variables.Reference
import BringUp.Step.Execution
import BringUp.Step.VariableCheck

/-!
# Reading calls and checks of variables

A call and a check of a variable both end in an expectation, and what stands before its operator is
read by itself: as words, or as the first reference. So what is written of a function, arguments and
an expectation, or of a variable and an expectation, is read back as such, however many blanks there
are and whichever operators stand behind the first that counts.

* `Text.exists_of_firstReference?`: the first reference stands in the text.
* `Execution.read_of_spaced`: the call that is read back.
* `Execution.read_of_blanks`, `VariableCheck.read_of_no_reference`: what is refused for its format.
* `Expectation.reads_back`: all of this for every text.
-/

namespace BringUp

namespace Text

variable {inName : Char → Bool} {cs name : List Char}

/-- The first reference stands in the text. -/
theorem exists_of_firstReference? (h : firstReference? inName cs = some name) :
    IsName inName name ∧ ∃ left right, cs = left ++ ((Piece.reference name).spell ++ right) := by
  induction cs with
  | nil => cases h
  | cons c cs ih =>
    rw [firstReference?] at h
    cases hreference : reference? inName (c :: cs) with
    | some found =>
      rw [hreference] at h
      cases h
      exact ⟨isName_of_reference? hreference, [], _, eq_append_of_reference? hreference⟩
    | none =>
      rw [hreference] at h
      obtain ⟨hname, left, right, rfl⟩ := ih h
      exact ⟨hname, c :: left, right, rfl⟩

end Text

open Expectation (Written BadPattern)

variable {body : String} {left : List Char} {expect : Expectation}

/-- A text is refused for its format. -/
def RefusesFormat {α : Type} (result : Except StepError α) : Prop :=
  ∃ reason, result = .error (.invalidFormat reason)

namespace Execution

/-- The words before the operator are the function and its arguments. -/
theorem read_of_spaced {function : String} {arguments : List String}
    (hbody : Written body.toList left expect) (hleft : Text.Spaced left (function :: arguments)) :
    read body = .ok { function, arguments, expect } := by
  have hwords : Text.words (String.ofList left) = function :: arguments :=
    Text.words_eq_of_spaced (by rwa [String.toList_ofList])
  simp only [read, Expectation.split_eq_ok_iff.2 hbody, bind, Except.bind, hwords]

/-- A text without a word before the operator is refused. -/
theorem read_of_blanks (hbody : Written body.toList left expect)
    (hleft : ∀ c ∈ left, Text.isBlank c = true) : RefusesFormat (read body) := by
  have hwords : Text.words (String.ofList left) = [] :=
    Text.words_eq_of_spaced (by rw [String.toList_ofList]; exact .of_blanks hleft)
  refine ⟨"missing function name in " ++ Text.Quoted.quote body, ?_⟩
  simp only [read, Expectation.split_eq_ok_iff.2 hbody, bind, Except.bind, hwords]

/-- A text that is not cut is refused for the same reason. -/
theorem read_of_error {e : StepError} (h : Expectation.split body = .error e) :
    read body = .error e := by
  simp only [read, h, bind, Except.bind]

end Execution

namespace VariableCheck

/-- A text without a reference before the operator is refused. -/
theorem read_of_no_reference (hbody : Written body.toList left expect)
    (hleft : ∀ name before after : List Char, name ≠ [] → '\x7d' ∉ name →
      left ≠ before ++ ((Text.Piece.reference name).spell ++ after)) :
    RefusesFormat (read body) := by
  have hnone : Text.firstReference? inName left = none := by
    cases hfirst : Text.firstReference? inName left with
    | none => rfl
    | some name =>
      obtain ⟨hname, before, after, heq⟩ := Text.exists_of_firstReference? hfirst
      have hclose : '\x7d' ∉ name := fun hmem =>
        absurd (List.all_eq_true.1 hname.all _ hmem) (by decide)
      exact absurd heq (hleft name before after hname.ne_nil hclose)
  refine ⟨"no $\x7bname\x7d reference in " ++ Text.Quoted.quote (String.ofList left), ?_⟩
  simp only [read, Expectation.split_eq_ok_iff.2 hbody, bind, Except.bind, hnone]

/-- A text that is not cut is refused for the same reason. -/
theorem read_of_error {e : StepError} (h : Expectation.split body = .error e) :
    read body = .error e := by
  simp only [read, h, bind, Except.bind]

end VariableCheck

namespace Expectation

/-- Words with any blanks between and around them, then an expectation, are read as a call of the
first word with the others as arguments; a pattern may stand behind words with colons and may have
any operators itself, and an exact text is kept as it is. A name in braces behind a dollar sign,
then an expectation, is read as a check of that variable. A text with no operator, or with no word
or no reference before it, is refused for its format, and one with no pattern behind its first bar
for that. -/
theorem reads_back :
    (∀ (call function : String) (arguments : List String),
      Text.Spaced call.toList (function :: arguments) →
      (∀ word ∈ function :: arguments, '|' ∉ word.toList) →
      (∀ source p, Pattern.compile (Text.trim source) = .ok p →
        Execution.read (call ++ "|" ++ source) =
          .ok { function, arguments, expect := .pattern p }) ∧
      ((∀ word ∈ function :: arguments, ':' ∉ word.toList) →
        ∀ expected : String, '|' ∉ expected.toList →
          Execution.read (call ++ ":" ++ expected) =
            .ok { function, arguments, expect := .exact expected })) ∧
    (∀ name : String, name ≠ "" → '\x7d' ∉ name.toList → '|' ∉ name.toList →
      (∀ source p, Pattern.compile (Text.trim source) = .ok p →
        VariableCheck.read (Variables.reference name ++ "|" ++ source) =
          .ok { variableName := name, expect := .pattern p }) ∧
      (':' ∉ name.toList → ∀ expected : String, '|' ∉ expected.toList →
        VariableCheck.read (Variables.reference name ++ ":" ++ expected) =
          .ok { variableName := name, expect := .exact expected })) ∧
    ∀ body : String,
      (∀ source cause, BadPattern body.toList source cause →
        Execution.read body = .error (.invalidPattern source cause) ∧
        VariableCheck.read body = .error (.invalidPattern source cause)) ∧
      ('|' ∉ body.toList → ':' ∉ body.toList →
        RefusesFormat (Execution.read body) ∧ RefusesFormat (VariableCheck.read body)) ∧
      ∀ left expect, Written body.toList left expect →
        ((∀ c ∈ left, Text.isBlank c = true) → RefusesFormat (Execution.read body)) ∧
        ((∀ name before after : List Char, name ≠ [] → '\x7d' ∉ name →
          left ≠ before ++ ((Text.Piece.reference name).spell ++ after)) →
          RefusesFormat (VariableCheck.read body)) := by
  refine ⟨fun call function arguments hcall hbar => ⟨fun source p hcompile => ?_,
    fun hcolon expected hexpected => ?_⟩, fun name hne hclose hbar => ⟨fun source p hcompile => ?_,
    fun hcolon expected hexpected => ?_⟩, fun body => ⟨fun source cause hbad => ?_,
    fun hbar hcolon => ?_, fun left expect hbody => ⟨?_, ?_⟩⟩⟩
  · exact Execution.read_of_spaced (written_pattern (hcall.notMem (by decide) hbar) hcompile) hcall
  · exact Execution.read_of_spaced (written_exact (hcall.notMem (by decide) hbar)
      (hcall.notMem (by decide) hcolon) hexpected) hcall
  · exact Variables.read_of_reference (by simpa using hne) hclose
      (written_pattern (Variables.notMem_reference hbar (by decide)) hcompile)
  · exact Variables.read_of_reference (by simpa using hne) hclose (written_exact
      (Variables.notMem_reference hbar (by decide))
      (Variables.notMem_reference hcolon (by decide)) hexpected)
  · have hsplit := split_eq_error_iff.2 (.inl ⟨source, cause, hbad, rfl⟩)
    exact ⟨Execution.read_of_error hsplit, VariableCheck.read_of_error hsplit⟩
  · have hsplit := split_eq_error_iff.2 (.inr ⟨hbar, hcolon, rfl⟩)
    exact ⟨⟨_, Execution.read_of_error hsplit⟩, _, VariableCheck.read_of_error hsplit⟩
  · exact Execution.read_of_blanks hbody
  · exact VariableCheck.read_of_no_reference hbody

end Expectation

end BringUp
