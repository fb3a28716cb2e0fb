import BringUp.Pattern.Escape

/-!
# Sets in brackets

A set in brackets lists characters, ranges, classes and further sets, and may combine such lists
by intersection, difference and symmetric difference, all of the same rank and from the left.
-/

namespace BringUp.Pattern.Class

open Unicode (CharSet)

/-- How deep sets, groups and repetitions may be nested. -/
def nestLimit : Nat := 250

/-- The members listed so far: their ranges, how many items they came from and how deep the
deepest item is. -/
structure Listing where
  /-- Ranges of the members. -/
  parts : List (Nat × Nat) := []
  /-- Number of items. -/
  count : Nat := 0
  /-- Depth of the deepest item. -/
  depth : Nat := 0

/-- A set and the depth of its nesting. -/
structure Nested where
  /-- The members. -/
  set : CharSet
  /-- How deep its parts are nested. -/
  depth : Nat

namespace Listing

/-- The listing with one more item. -/
def add (l : Listing) (s : CharSet) (depth : Nat) : Listing :=
  { parts := s.ranges ++ l.parts, count := l.count + 1, depth := max l.depth depth }

/-- The set listed. Two items or more are one level above their items. -/
def done (l : Listing) : Nested :=
  { set := .ofRanges l.parts, depth := if 2 ≤ l.count then l.depth + 1 else l.depth }

end Listing

/-- An operation on two sets. -/
inductive Operator where
  /-- Members of both. -/
  | intersection
  /-- Members of the left one alone. -/
  | difference
  /-- Members of exactly one. -/
  | symmetricDifference

/-- The combined set, with both cases of all members if case does not count. -/
def Operator.apply (f : Flags) (op : Operator) (a b : CharSet) : CharSet :=
  let a := fold f a
  let b := fold f b
  match op with
  | .intersection => a.inter b
  | .difference => a.diff b
  | .symmetricDifference => a.symmDiff b

/-- What waits for the listing under way. -/
inductive Frame where
  /-- An open bracket, and the listing around it. -/
  | bracket (outer : Listing) (negated : Bool)
  /-- An operator with its left side. -/
  | operator (op : Operator) (left : Nested)

/-- Combines a finished listing with the operator that waits for it. -/
def combine (f : Flags) (right : Nested) : List Frame → Nested × List Frame
  | .operator op left :: frames =>
    ({ set := op.apply f left.set right.set, depth := max left.depth right.depth + 1 }, frames)
  | frames => (right, frames)

/-- The ASCII classes by their names. -/
def asciiClasses : List (String × CharSet) := [
  ("alnum", .ofRanges [(48, 57), (65, 90), (97, 122)]),
  ("alpha", .ofRanges [(65, 90), (97, 122)]),
  ("ascii", .range 0 127),
  ("blank", .ofRanges [(9, 9), (32, 32)]),
  ("cntrl", .ofRanges [(0, 31), (127, 127)]),
  ("digit", .range 48 57),
  ("graph", .range 33 126),
  ("lower", .range 97 122),
  ("print", .range 32 126),
  ("punct", .ofRanges [(33, 47), (58, 64), (91, 96), (123, 126)]),
  ("space", .ofRanges [(9, 13), (32, 32)]),
  ("upper", .range 65 90),
  ("word", .ofRanges [(48, 57), (65, 90), (95, 95), (97, 122)]),
  ("xdigit", .ofRanges [(48, 57), (65, 70), (97, 102)])]

/-- Reads the name of an ASCII class after its opening bracket: a colon, perhaps a caret, the
name, a colon and a closing bracket. Anything else is no such name. -/
def readAsciiClass? : List Char → Option (CharSet × Bool × List Char)
  | ':' :: cs =>
    let (negated, cs) := match cs with
      | '^' :: cs => (true, cs)
      | cs => (false, cs)
    let name := cs.takeWhile (· != ':')
    match cs.dropWhile (· != ':') with
    | ':' :: ']' :: rest =>
      (asciiClasses.lookup (String.ofList name)).map fun s => (s, negated, rest)
    | _ => none
  | _ => none

/-- Reads one character or escape in brackets. -/
def readAtom (f : Flags) : List Char → Except PatternError (Atom × List Char)
  | [] => .error .classUnclosed
  | '\\' :: cs => readEscape f cs
  | c :: cs => .ok (.char c false, cs)

/-- The character after the next one, blanks and comments apart in verbose mode, where a second
number sign does count. -/
def peekVerbose (inComment : Bool) : List Char → Option Char
  | [] => none
  | c :: cs =>
    if Text.isBlank c then peekVerbose inComment cs
    else if !inComment && c == '#' then peekVerbose true cs
    else some c

/-- The character that would come next. -/
def peek (f : Flags) (cs : List Char) : Option Char :=
  if f.verbose then peekVerbose false cs else cs.head?

/-- Reads a character, a class or a range. A hyphen before the closing bracket or before another
hyphen is no range. -/
def readItem (f : Flags) (cs : List Char) : Except PatternError (CharSet × List Char) := do
  let (low, rest) ← readAtom f cs
  match skip f rest with
  | [] => .error .classUnclosed
  | '-' :: more =>
    if peek f more == some ']' || peek f more == some '-' then
      return (← low.toSet f, '-' :: more)
    match skip f more with
    | [] => .error .classUnclosed
    | more =>
      let (high, rest) ← readAtom f more
      match low, high with
      | .char a _, .char b _ =>
        if b < a then .error .classRange
        return (.range (← Atom.codePoint f a) (← Atom.codePoint f b), rest)
      | _, _ => .error .classRange
  | rest => return (← low.toSet f, rest)

/-- Reads the hyphens at the start of a set; they stand for themselves. -/
def readHyphens (f : Flags) : Nat → Listing → List Char → Listing × List Char
  | fuel + 1, l, '-' :: cs => readHyphens f fuel (l.add (.single '-') 0) (skip f cs)
  | _, l, cs => (l, cs)

/-- Reads the start of a set after its bracket: a caret, hyphens, and a closing bracket that
stands for itself. -/
def readOpening (f : Flags) (cs : List Char) :
    Except PatternError (Bool × Listing × List Char) := do
  let cs := skip f cs
  let (negated, cs) := match cs with
    | '^' :: cs => (true, skip f cs)
    | cs => (false, cs)
  let (l, cs) := readHyphens f cs.length {} cs
  let (l, cs) := match cs with
    | ']' :: more => if l.count == 0 then (l.add (.single ']') 0, skip f more) else (l, cs)
    | cs => (l, cs)
  if cs.isEmpty then .error .classUnclosed
  return (negated, l, cs)

/-- Reads the rest of a set: the listing under way and what waits for it. -/
def readRest (f : Flags) : Nat → Listing → List Frame → List Char →
    Except PatternError (Nested × List Char)
  | 0, _, _, _ => .error .classUnclosed
  | fuel + 1, l, frames, cs => do
    let operator (op : Operator) (cs : List Char) :=
      let (left, frames) := combine f l.done frames
      readRest f fuel {} (.operator op left :: frames) cs
    match skip f cs with
    | [] => .error .classUnclosed
    | '[' :: cs =>
      match readAsciiClass? cs with
      | some (s, negated, rest) =>
        readRest f fuel (l.add (← negate f negated (fold f s)) 0) frames rest
      | none =>
        if nestLimit ≤ frames.length then .error .nesting
        let (negated, inner, rest) ← readOpening f cs
        readRest f fuel inner (.bracket l negated :: frames) rest
    | ']' :: cs =>
      let (whole, frames) := combine f l.done frames
      let set ← match frames with
        | .bracket _ negated :: _ => negate f negated (fold f whole.set)
        | _ => .error .classUnclosed
      let depth := whole.depth + 1
      if nestLimit < depth then .error .nesting
      match frames with
      | .bracket outer _ :: next :: frames =>
        readRest f fuel (outer.add set depth) (next :: frames) cs
      | _ => return ({ set, depth }, cs)
    | '&' :: '&' :: cs => operator .intersection cs
    | '-' :: '-' :: cs => operator .difference cs
    | '~' :: '~' :: cs => operator .symmetricDifference cs
    | cs =>
      let (s, rest) ← readItem f cs
      readRest f fuel (l.add s 0) frames rest

/-- Reads a set in brackets after its opening bracket. -/
def read (f : Flags) (cs : List Char) : Except PatternError (Nested × List Char) := do
  let (negated, l, rest) ← readOpening f cs
  readRest f (rest.length + 1) l [.bracket {} negated] rest

end BringUp.Pattern.Class
