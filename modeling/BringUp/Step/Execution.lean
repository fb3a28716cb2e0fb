import BringUp.Step.Expectation
import BringUp.Text.Blank

/-!
# Calling a function

The form is `name word word:text` or `name word word|pattern`: a function, its arguments, and what
its result should be.
-/

namespace BringUp

/-- A call of a function and what it should give. -/
structure Execution where
  /-- The name of the function. -/
  function : String
  /-- The arguments. -/
  arguments : List String
  /-- What the result should be. -/
  expect : Expectation

/-- Reads a call. -/
def Execution.read (body : String) : Except StepError Execution := do
  let (call, expect) ← Expectation.split body
  match Text.words (String.ofList call) with
  | function :: arguments => .ok { function, arguments, expect }
  | [] => .error (.invalidFormat ("missing function name in " ++ Text.Quoted.quote body))

end BringUp
