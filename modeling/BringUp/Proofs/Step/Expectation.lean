import BringUp.Proofs.Text.Cutting
import BringUp.Step.Expectation
import BringUp.Text.Blank

/-!
# Where an expectation stands

An expectation stands behind its operator. A pattern stands behind the first bar, wherever it is; a
text that has no bar has an exact text behind its first colon. Nothing else is refused than a text
with neither of them, and one with a bar but no pattern behind it.

* `map_eq_ok_iff`, `map_eq_error_iff`: what is made of a result.
* `Expectation.readPattern_eq`: a pattern is read without the blanks around it.
* `Expectation.Written`: the texts with an expectation.
* `Expectation.split_eq_ok_iff`, `Expectation.split_eq_error_iff`: how a text is cut.
* `Expectation.written_pattern`, `Expectation.written_exact`: what is written behind other texts.
-/

namespace BringUp

section

variable {ε α β : Type} {x : Except ε α} {f : α → β} {b : β} {e : ε}

/-- What is made of a result is a result if there was one. -/
theorem map_eq_ok_iff : x.map f = .ok b ↔ ∃ a, x = .ok a ∧ f a = b := by
  cases x <;> simp [Except.map]

/-- Nothing is made of an error. -/
theorem map_eq_error_iff : x.map f = .error e ↔ x = .error e := by
  cases x <;> simp [Except.map]

end

namespace Expectation

/-- A pattern is read without the blanks around it, and if it is none, the error says so. -/
theorem readPattern_eq (text : List Char) : readPattern text =
    (Pattern.compile (Text.trim (String.ofList text))).mapError
      (.invalidPattern (Text.trim (String.ofList text))) := by
  have hsource : String.ofList (Text.trimChars text) = Text.trim (String.ofList text) := by
    rw [Text.trim, String.toList_ofList]
  unfold readPattern
  simp only [hsource]
  cases Pattern.compile (Text.trim (String.ofList text)) <;> rfl

/-- Such a pattern is read. -/
theorem readPattern_eq_ok_iff {text : List Char} {p : Pattern} :
    readPattern text = .ok p ↔ Pattern.compile (Text.trim (String.ofList text)) = .ok p := by
  rw [readPattern_eq]
  cases Pattern.compile (Text.trim (String.ofList text)) <;> simp [Except.mapError]

/-- Anything else is no pattern. -/
theorem readPattern_eq_error_iff {text : List Char} {e : StepError} :
    readPattern text = .error e ↔ ∃ cause,
      Pattern.compile (Text.trim (String.ofList text)) = .error cause ∧
        e = .invalidPattern (Text.trim (String.ofList text)) cause := by
  rw [readPattern_eq]
  cases Pattern.compile (Text.trim (String.ofList text)) <;> simp [Except.mapError, eq_comm]

/-- How an expectation is written behind something else. -/
inductive Written (text left : List Char) : Expectation → Prop where
  /-- A pattern behind the first bar. -/
  | pattern {source : List Char} {p : Pattern} :
      text = left ++ '|' :: source → '|' ∉ left →
      Pattern.compile (Text.trim (String.ofList source)) = .ok p → Written text left (.pattern p)
  /-- An exact text behind the first colon, if there is no bar. -/
  | exact {expected : List Char} :
      text = left ++ ':' :: expected → '|' ∉ text → ':' ∉ left →
      Written text left (.exact (String.ofList expected))

/-- Behind the first bar of a text stands no pattern. -/
structure BadPattern (text : List Char) (source : String) (cause : PatternError) : Prop where
  /-- What stands behind the first bar, without the blanks around it. -/
  behind : ∃ left right, text = left ++ '|' :: right ∧ '|' ∉ left ∧
    source = Text.trim (String.ofList right)
  /-- It cannot be read. -/
  bad : Pattern.compile source = .error cause

variable {text : String} {left : List Char} {expect : Expectation} {e : StepError}

/-- A text is cut before its expectation. -/
theorem split_eq_ok_iff :
    split text = .ok (left, expect) ↔ Written text.toList left expect := by
  unfold split patternOperator exactOperator
  cases hbar : Text.splitOnce? ['|'] text.toList with
  | some parts =>
    obtain ⟨before, source⟩ := parts
    obtain ⟨htext, hbefore⟩ := Text.splitOnce?_char_eq_some_iff.1 hbar
    have hbarmem : '|' ∈ text.toList := htext ▸ List.mem_append_right _ List.mem_cons_self
    simp only [map_eq_ok_iff, readPattern_eq_ok_iff, Prod.mk.injEq]
    constructor
    · rintro ⟨p, hcompile, rfl, rfl⟩
      exact .pattern htext hbefore hcompile
    · rintro (⟨htext', hleft, hcompile⟩ | ⟨-, hnobar, -⟩)
      · cases hbar.symm.trans (Text.splitOnce?_char_eq_some_iff.2 ⟨htext', hleft⟩)
        exact ⟨_, hcompile, rfl, rfl⟩
      · exact absurd hbarmem hnobar
  | none =>
    have hnobar : '|' ∉ text.toList := Text.splitOnce?_char_eq_none_iff.1 hbar
    cases hcolon : Text.splitOnce? [':'] text.toList with
    | some parts =>
      obtain ⟨before, expected⟩ := parts
      obtain ⟨htext, hbefore⟩ := Text.splitOnce?_char_eq_some_iff.1 hcolon
      constructor
      · intro h
        cases h
        exact .exact htext hnobar hbefore
      · rintro (⟨htext', -, -⟩ | ⟨htext', -, hleft⟩)
        · exact absurd (htext' ▸ List.mem_append_right _ List.mem_cons_self) hnobar
        · cases hcolon.symm.trans (Text.splitOnce?_char_eq_some_iff.2 ⟨htext', hleft⟩)
          rfl
    | none =>
      have hnocolon : ':' ∉ text.toList := Text.splitOnce?_char_eq_none_iff.1 hcolon
      refine iff_of_false (by simp) ?_
      rintro (⟨htext, -, -⟩ | ⟨htext, -, -⟩)
      · exact hnobar (htext ▸ List.mem_append_right _ List.mem_cons_self)
      · exact hnocolon (htext ▸ List.mem_append_right _ List.mem_cons_self)

/-- A text is refused for a bad pattern, or for its format if it has no operator. -/
theorem split_eq_error_iff : split text = .error e ↔
    (∃ source cause, BadPattern text.toList source cause ∧ e = .invalidPattern source cause) ∨
      '|' ∉ text.toList ∧ ':' ∉ text.toList ∧
        e = .invalidFormat ("missing ':' or '|' in " ++ Text.Quoted.quote text) := by
  unfold split patternOperator exactOperator
  cases hbar : Text.splitOnce? ['|'] text.toList with
  | some parts =>
    obtain ⟨before, source⟩ := parts
    obtain ⟨htext, hbefore⟩ := Text.splitOnce?_char_eq_some_iff.1 hbar
    have hbarmem : '|' ∈ text.toList := htext ▸ List.mem_append_right _ List.mem_cons_self
    simp only [map_eq_error_iff, readPattern_eq_error_iff]
    constructor
    · rintro ⟨cause, hcompile, rfl⟩
      exact .inl ⟨_, cause, ⟨⟨before, source, htext, hbefore, rfl⟩, hcompile⟩, rfl⟩
    · rintro (⟨_, cause, ⟨⟨left, right, htext', hleft, rfl⟩, hcompile⟩, rfl⟩ | ⟨hnobar, -⟩)
      · cases hbar.symm.trans (Text.splitOnce?_char_eq_some_iff.2 ⟨htext', hleft⟩)
        exact ⟨cause, hcompile, rfl⟩
      · exact absurd hbarmem hnobar
  | none =>
    have hnobar : '|' ∉ text.toList := Text.splitOnce?_char_eq_none_iff.1 hbar
    have hgood (source : String) (cause : PatternError) :
        ¬ BadPattern text.toList source cause := by
      rintro ⟨⟨left, right, htext, -⟩, -⟩
      exact hnobar (htext ▸ List.mem_append_right _ List.mem_cons_self)
    cases hcolon : Text.splitOnce? [':'] text.toList with
    | some parts =>
      have hmem : ':' ∈ text.toList := by
        rw [(Text.splitOnce?_char_eq_some_iff.1 hcolon).1]
        simp
      simp [hgood, hmem]
    | none =>
      have hnocolon : ':' ∉ text.toList := Text.splitOnce?_char_eq_none_iff.1 hcolon
      simp [hgood, hnobar, hnocolon, eq_comm]

/-- A pattern stands behind what has no bar. -/
theorem written_pattern {call source : String} {p : Pattern} (hbar : '|' ∉ call.toList)
    (hcompile : Pattern.compile (Text.trim source) = .ok p) :
    Written (call ++ "|" ++ source).toList call.toList (.pattern p) := by
  have htext : (call ++ "|" ++ source).toList = call.toList ++ '|' :: source.toList := by simp
  exact .pattern htext hbar (by rwa [String.ofList_toList])

/-- An exact text stands behind what has no operator, if it has no bar. -/
theorem written_exact {call expected : String} (hbar : '|' ∉ call.toList)
    (hcolon : ':' ∉ call.toList) (hexpected : '|' ∉ expected.toList) :
    Written (call ++ ":" ++ expected).toList call.toList (.exact expected) := by
  have htext : (call ++ ":" ++ expected).toList = call.toList ++ ':' :: expected.toList := by simp
  have hwritten := Written.exact htext (by rw [htext]; simp [hbar, hexpected]) hcolon
  rwa [String.ofList_toList] at hwritten

end Expectation

end BringUp
