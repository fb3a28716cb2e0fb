import BringUp.Failure
import BringUp.Table
import BringUp.Trace

/-!
# Functions

A sequence can call functions by name. A function gets words and gives a text, or fails; it may
look at what has happened so far and at the time. A call may take time, and the caller waits for it.
-/

namespace BringUp

/-- What a call leads to. -/
structure Answer (α : Type) where
  /-- How long the call takes. -/
  duration : Nat := 0
  /-- What it gives then, or why it fails. -/
  result : Except Failure α

/-- Making something of what a call gives takes no time. -/
def Answer.map {α β : Type} (f : α → β) (a : Answer α) : Answer β :=
  { a with result := a.result.map f }

/-- A function that a sequence can call. -/
abbrev Function := Trace → List String → Answer String

/-- The functions by their names. -/
abbrev Functions := Table Function

namespace Function

/-- A function that takes no time. -/
def instant (f : Trace → List String → Except Failure String) : Function :=
  fun t arguments => { result := f t arguments }

/-- A function that always gives the same text. -/
def returning (text : String) : Function := instant fun _ _ => .ok text

/-- A function that gives its arguments, joined. -/
def joining (separator : String) : Function := instant fun _ arguments =>
  .ok (separator.intercalate arguments)

/-- A function that always fails. -/
def failing (failure : Failure) : Function := instant fun _ _ => .error failure

end Function

/-- Calls a function; nothing if there is none of that name. -/
def Functions.call? (name : String) (arguments : List String) (t : Trace) (fs : Functions) :
    Option (Answer String) :=
  (fs.get? name).map fun f => f t arguments

end BringUp
