import BringUp.Failure
import BringUp.Text.Blank
import BringUp.Text.Numeral
import BringUp.Text.Quoted

/-!
# Sequences

A sequence is a text with an entry on each line: the place of a command in the command list, or a
directive to be run as it stands, which starts with `#`. Blanks around an entry do not count. A last
line that is empty is no entry.
-/

namespace BringUp.Script

/-- An entry of a sequence. -/
inductive Entry where
  /-- The command at this place of the command list. -/
  | command (index : Nat)
  /-- A line of its own. -/
  | directive (line : String)
  deriving Repr, DecidableEq

/-- Reads the entry on a line. -/
def readEntry? (line : String) : Option Entry :=
  match Text.trimChars line.toList with
  | '#' :: rest => some (.directive (String.ofList ('#' :: rest)))
  | cs =>
    match Text.readNat Text.maxWord64 cs with
    | .ok index => some (.command index)
    | .error _ => none

/-- The lines of a sequence: all but a last one that is empty. -/
def entryLines (content : String) : List String :=
  let lines := Text.lines content
  if lines.getLast? = some "" then lines.dropLast else lines

/-- The failure of a line that is no entry. -/
def entryFailure (number : Nat) (line : String) : Failure where
  message := "Invalid sequence entry on line " ++ toString number
  causes := ["expected a command index, got " ++ Text.Quoted.quote line]

/-- Reads the entries of lines that are numbered from `number` on. -/
def readEntries (number : Nat) : List String → Except Failure (List Entry)
  | [] => .ok []
  | line :: rest =>
    match readEntry? line with
    | none => .error (entryFailure number line)
    | some entry => (readEntries (number + 1) rest).map (entry :: ·)

/-- Reads a sequence. -/
def readSequence (content : String) : Except Failure (List Entry) :=
  readEntries 1 (entryLines content)

end BringUp.Script
