import BringUp.Step.Error
import BringUp.Text.Split
import BringUp.Variables

/-!
# Expectations

An expectation says what a text should be: exactly another text, or one that a pattern matches. It
stands behind its operator at the end of a line, `:` for a text and `|` for a pattern. Where both
operators stand, the pattern's counts.
-/

namespace BringUp

/-- What a text should be. -/
inductive Expectation where
  /-- Exactly this text. -/
  | exact (text : String)
  /-- A text that the pattern matches. -/
  | pattern (p : Pattern)

namespace Expectation

/-- The operator before an exact text. -/
def exactOperator : List Char := [':']

/-- The operator before a pattern. -/
def patternOperator : List Char := ['|']

/-- Reads a pattern, without the blanks around it. -/
def readPattern (text : List Char) : Except StepError Pattern :=
  let source := String.ofList (Text.trimChars text)
  match Pattern.compile source with
  | .ok p => .ok p
  | .error e => .error (.invalidPattern source e)

/-- Cuts a line at its operator, into what stands before it and the expectation. -/
def split (text : String) : Except StepError (List Char × Expectation) :=
  match Text.splitOnce? patternOperator text.toList with
  | some (left, right) => (readPattern right).map fun p => (left, .pattern p)
  | none =>
    match Text.splitOnce? exactOperator text.toList with
    | some (left, right) => .ok (left, .exact (String.ofList right))
    | none => .error (.invalidFormat ("missing ':' or '|' in " ++ Text.Quoted.quote text))

/-- The expectation in words. -/
def text : Expectation → String
  | .exact expected => expected
  | .pattern p => "/" ++ p.source ++ "/"

/-- Whether a text is as expected. -/
def accepts (actual : String) : Expectation → Bool
  | .exact expected => actual == expected
  | .pattern p => p.isMatch actual

/-- Checks a text. -/
def check (actual : String) (e : Expectation) : Except StepError Unit :=
  if e.accepts actual then .ok () else .error (.mismatch e.text actual)

/-- The variables after a text is matched; nothing if it is not as expected. -/
def capture? (actual : String) (v : Variables) : Expectation → Option Variables
  | .exact expected => if actual == expected then some v else none
  | .pattern p => v.capture? p actual

/-- Checks a text and captures the named groups of the pattern. -/
def checkCapturing (actual : String) (v : Variables) (e : Expectation) :
    Except StepError Variables :=
  match e.capture? actual v with
  | some v => .ok v
  | none => .error (.mismatch e.text actual)

end Expectation

end BringUp
