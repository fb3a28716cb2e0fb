/-!
# Failures

What went wrong outside the steps of a sequence: a file that cannot be read, a port that does not
open. A failure is a message and the chain of its causes, and is told in one line from the
outermost message to the innermost.
-/

namespace BringUp

/-- A message and its causes, each caused by the next. -/
structure Failure where
  /-- What was being done. -/
  message : String
  /-- Why it failed, from near to far. -/
  causes : List String := []
  deriving Repr, DecidableEq

namespace Failure

/-- The failure with the given messages, outermost first. -/
def ofChain : List String → Failure
  | [] => { message := "" }
  | message :: causes => { message, causes }

/-- The failure as the cause of `message`. -/
def context (message : String) (f : Failure) : Failure :=
  { message, causes := f.message :: f.causes }

/-- The failure in one line. -/
def text (f : Failure) : String := ": ".intercalate (f.message :: f.causes)

end Failure

end BringUp
