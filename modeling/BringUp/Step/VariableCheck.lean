import BringUp.Step.Expectation

/-!
# Checking a variable

The form is a reference to a variable, then `:text` or `|pattern`. Around the reference anything
may stand, and any name will do that a closing brace ends.
-/

namespace BringUp

/-- A variable and what its value should be. -/
structure VariableCheck where
  /-- The name of the variable. -/
  variableName : String
  /-- What the value should be. -/
  expect : Expectation

/-- Whether a character may stand in the name of a checked variable. -/
def VariableCheck.inName (c : Char) : Bool := c ≠ '\x7d'

/-- Reads a check of a variable. -/
def VariableCheck.read (body : String) : Except StepError VariableCheck := do
  let (left, expect) ← Expectation.split body
  match Text.firstReference? inName left with
  | some name => .ok { variableName := String.ofList name, expect }
  | none =>
    .error (.invalidFormat
      ("no $\x7bname\x7d reference in " ++ Text.Quoted.quote (String.ofList left)))

end BringUp
