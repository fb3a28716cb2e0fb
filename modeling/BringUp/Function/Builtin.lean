import BringUp.Function
import BringUp.Text.Blank
import BringUp.Text.Numeral

/-!
# Built-in functions

* `absdiff` gives the distance between two whole numbers of 64 bits.
* `timestamp` gives the time in whole seconds since the epoch.
* `ping` tells whether a host answers.

How a host is asked and how long that takes, and at which time since the epoch a run started, is
given from outside. Only a host that is asked takes time.
-/

namespace BringUp.Function

/-- Reads an argument as a whole number of 64 bits. -/
def readInteger (argument : String) : Except Failure Int :=
  match Text.readInt Text.signBound64 (Text.trimChars argument.toList) with
  | .ok n => .ok n
  | .error e => .error { message := "Not an integer: " ++ argument, causes := [e.message] }

/-- The distance between two whole numbers. -/
def absdiff : Function := instant fun _ arguments =>
  match arguments with
  | [a, b] =>
    match readInteger a, readInteger b with
    | .ok x, .ok y => .ok (toString (x - y).natAbs)
    | .error e, _ => .error e
    | .ok _, .error e => .error e
  | _ =>
    .error { message := "absdiff takes two arguments, got " ++ toString arguments.length }

/-- The time in whole seconds, for a run that started at `start` seconds since the epoch. -/
def timestamp (start : Nat) : Function := instant fun t _ => .ok (toString (start + t.now / 1000))

/-- How the answer of a host is told. -/
def reportAnswer (alive : Bool) : String := if alive then "true" else "false"

/-- Whether a host answers; `probe` asks it. -/
def ping (probe : Trace → String → Answer Bool) : Function := fun t arguments =>
  match arguments with
  | [] => { result := .error { message := "ping needs a host" } }
  | host :: _ => (probe t host).map reportAnswer

/-- The built-in functions. -/
def builtins (start : Nat) (probe : Trace → String → Answer Bool) : Functions :=
  { entries := [("ping", ping probe), ("timestamp", timestamp start), ("absdiff", absdiff)] }

end BringUp.Function
