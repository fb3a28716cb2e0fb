import BringUp.Pattern.Footprint
import BringUp.Pattern.Parser
import BringUp.Pattern.Search

/-!
# Patterns

A pattern describes texts and names parts of them. It matches a text if some part of the text
fits; the leftmost such part counts and, of the ways to fit there, the first in the order of the
pattern.

* `Pattern.compile` reads a pattern.
* `Pattern.captures?` gives the named groups that took part in the match, with their texts.
* `Pattern.isMatch` tells whether there is a match.
-/

namespace BringUp

/-- A compiled pattern. -/
structure Pattern where
  /-- The text it was read from. -/
  source : String
  /-- The named groups and their indices, in the order of the pattern. -/
  names : List (String × Nat)
  /-- How many groups capture. -/
  captures : Nat
  /-- The compiled nodes. -/
  program : Pattern.Program
  /-- No two groups have the same name. -/
  distinct : (names.map Prod.fst).Nodup

namespace Pattern

/-- Reads a pattern. -/
def compile (source : String) : Except PatternError Pattern := do
  let parsed ← Parser.parse source
  if !parsed.expr.fits then .error (.tooLarge sizeLimit)
  return {
    source
    names := parsed.names
    captures := parsed.captures
    program := .ofExpr parsed.expr
    distinct := parsed.distinct }

/-- The part of a text between the two slots of a group, if the group took part. -/
def groupText? (text : Array Char) (slots : Slots) (index : Nat) : Option String := do
  let first ← (slots[2 * index]?).join
  let last ← (slots[2 * index + 1]?).join
  return String.ofList (text.extract first last).toList

/-- The named groups that took part in the leftmost match, with the texts they matched. -/
def captures? (p : Pattern) (text : String) : Option (List (String × String)) :=
  let chars := text.toList.toArray
  (p.program.search p.captures chars).map fun slots =>
    p.names.filterMap fun (name, index) => (groupText? chars slots index).map (name, ·)

/-- Whether some part of the text fits the pattern. Nothing is remembered of the groups. -/
def isMatch (p : Pattern) (text : String) : Bool :=
  (p.program.search 0 text.toList.toArray).isSome

end Pattern

end BringUp
