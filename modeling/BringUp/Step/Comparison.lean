import BringUp.Number.Binary64
import BringUp.Step.Expectation
import BringUp.Text.Blank
import BringUp.Text.Numeral

/-!
# Comparing a reply

A comparison writes a command to the device and checks what comes back. Its forms are

* `command|pattern`: the first line that the pattern matches;
* `command==(n)text`: the next `n` lines, one of which is the text;
* `command><(1)[low,high]`: the next line lies strictly between the bounds.

Where several operators stand, `><` counts before `==`, and `==` before `|`; of each the first.
-/

namespace BringUp

/-- What a reply should be. -/
inductive ReplyCheck where
  /-- The pattern matches a line. -/
  | pattern (p : Pattern)
  /-- One of the next `count` lines is the expected one. -/
  | contains (count : Nat) (expected : String)
  /-- The next line lies strictly between the bounds. -/
  | between (low high : String)

/-- A command and what the reply to it should be. -/
structure Comparison where
  /-- The command that is written. -/
  command : String
  /-- What the reply should be. -/
  check : ReplyCheck

namespace Comparison

/-- The operator before bounds. -/
def betweenOperator : List Char := ['>', '<']

/-- The operator before a count of lines and one of them. -/
def containsOperator : List Char := ['=', '=']

/-- The operator before a pattern. -/
def patternOperator : List Char := ['|']

/-- Reads a positive count in parentheses and what follows, which is not empty and is one line. -/
def counted? : List Char → Option (Nat × List Char)
  | '(' :: cs =>
    match Text.readNat Text.maxWord64 (cs.takeWhile Char.isDigit), cs.dropWhile Char.isDigit with
    | .ok count, ')' :: rest =>
      if count = 0 || rest.isEmpty || rest.contains '\n' then none else some (count, rest)
    | _, _ => none
  | _ => none

/-- What stands in brackets that span a whole text, if it is not empty. -/
def bracketed? : List Char → Option (List Char)
  | '[' :: cs =>
    if cs.getLast? = some ']' && cs.dropLast ≠ [] then some cs.dropLast else none
  | _ => none

/-- The two parts of a text with a single comma. -/
def pair? (cs : List Char) : Option (List Char × List Char) :=
  match Text.splitOnce? [','] cs with
  | some (low, high) => if high.contains ',' then none else some (low, high)
  | none => none

/-- Reads a count and what follows. -/
def readCounted (right : List Char) : Except StepError (Nat × List Char) :=
  match counted? right with
  | some found => .ok found
  | none =>
    .error (.invalidFormat
      ("expected (count)reply, got " ++ Text.Quoted.quote (String.ofList right)))

/-- Reads bounds for a single line. -/
def readBetween (right : List Char) : Except StepError ReplyCheck := do
  let (count, bounds) ← readCounted right
  if count ≠ 1 then
    .error (.invalidFormat
      ("range comparison takes a single reply, got (" ++ toString count ++ ")"))
  else
    match (bracketed? bounds).bind pair? with
    | some (low, high) =>
      .ok (.between (Text.trim (String.ofList low)) (Text.trim (String.ofList high)))
    | none =>
      .error (.invalidFormat
        ("expected [low,high], got " ++ Text.Quoted.quote (String.ofList bounds)))

/-- Reads a comparison. -/
def read (body : String) : Except StepError Comparison :=
  match Text.splitOnce? betweenOperator body.toList with
  | some (command, right) =>
    (readBetween right).map fun check => { command := String.ofList command, check }
  | none =>
    match Text.splitOnce? containsOperator body.toList with
    | some (command, right) =>
      (readCounted right).map fun (count, expected) =>
        { command := String.ofList command, check := .contains count (String.ofList expected) }
    | none =>
      match Text.splitOnce? patternOperator body.toList with
      | some (command, right) =>
        (Expectation.readPattern right).map fun p =>
          { command := String.ofList command, check := .pattern p }
      | none =>
        .error (.invalidFormat ("unsupported comparison in " ++ Text.Quoted.quote body))

/-- Whether a value lies strictly between two bounds: as numbers if all three are numbers, else in
the order of texts. -/
def within (value low high : String) : Bool :=
  let value := Text.trim value
  match Binary64.read? value, Binary64.read? low, Binary64.read? high with
  | some v, some l, some h => Binary64.lt l v && Binary64.lt v h
  | _, _, _ => decide (low < value) && decide (value < high)

end Comparison

end BringUp
