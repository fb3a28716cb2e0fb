import BringUp.Pattern.Class

/-!
# Reading patterns

A pattern is read from the left in one pass. Open groups wait on a stack, each with the flags to
return to, the branches it has finished and the items before it. Flags set inside a group hold
from there to its end, in later branches too.
-/

namespace BringUp.Pattern.Parser

open BringUp.Pattern.Class (nestLimit)

/-- A part of a branch. -/
structure Item where
  /-- What it means. -/
  expr : Expr
  /-- How deep its parts are nested. -/
  depth : Nat := 0
  /-- Whether a repetition may follow; a change of flags is no part to repeat. -/
  repeatable : Bool := true

/-- An item, unless it is nested too deeply. -/
def Item.checked (item : Item) : Except PatternError Item :=
  if nestLimit < item.depth then .error .nesting else .ok item

/-- The depth of the deepest item. -/
def deepest (items : List Item) : Nat := items.foldl (fun d item => max d item.depth) 0

/-- The items of a branch, the latest first, one after the other. -/
def joinItems (items : List Item) : Except PatternError Item :=
  match items with
  | [] => .ok { expr := .empty }
  | [item] => .ok item
  | items =>
    let exprs := (items.filter (·.repeatable)).reverse.map (·.expr)
    Item.checked { expr := .sequence exprs, depth := deepest items + 1 }

/-- The branches of a group, the latest first. -/
def joinBranches (branches : List Item) : Except PatternError Item :=
  match branches with
  | [branch] => .ok branch
  | branches =>
    Item.checked
      { expr := .choice (branches.reverse.map (·.expr)), depth := deepest branches + 1 }

/-- An open group. -/
structure Frame where
  /-- The flags around the group. -/
  flags : Flags
  /-- The index of the group, if it captures. -/
  capture : Option Nat
  /-- Finished branches around the group, the latest first. -/
  branches : List Item
  /-- Items before the group, the latest first. -/
  items : List Item

/-- What has been read. -/
structure State where
  /-- The flags at this place. -/
  flags : Flags := {}
  /-- How many groups capture so far. -/
  captures : Nat := 0
  /-- Named groups and their indices, the latest first. -/
  names : List (String × Nat) := []
  /-- Open groups, the innermost first. -/
  frames : List Frame := []
  /-- Finished branches of the innermost group, the latest first. -/
  branches : List Item := []
  /-- Items of the branch under way, the latest first. -/
  items : List Item := []

namespace State

/-- The state with one more item. -/
def push (st : State) (item : Item) : Except PatternError State := do
  return { st with items := (← item.checked) :: st.items }

/-- Ends the branch under way. -/
def endBranch (st : State) : Except PatternError State := do
  return { st with branches := (← joinItems st.items) :: st.branches, items := [] }

/-- Opens a group that starts with the given flags. -/
def openGroup (st : State) (flags : Flags) (capture : Option Nat) : Except PatternError State :=
  if nestLimit ≤ st.frames.length then .error .nesting
  else .ok { st with
    flags
    frames := { flags := st.flags, capture, branches := st.branches, items := st.items } :: st.frames
    branches := []
    items := [] }

/-- Opens the next group that captures, perhaps by name. -/
def openCapture (st : State) (name : Option String) : Except PatternError State :=
  let index := st.captures + 1
  let names := name.toList.map (·, index) ++ st.names
  { st with captures := index, names }.openGroup st.flags (some index)

/-- Closes the innermost group. -/
def closeGroup (st : State) : Except PatternError State := do
  match st.frames with
  | [] => .error .groupUnopened
  | frame :: frames =>
    let body ← joinBranches (← st.endBranch).branches
    let expr := match frame.capture with
      | some index => .group index body.expr
      | none => body.expr
    { st with flags := frame.flags, frames, branches := frame.branches, items := frame.items }.push
      { expr, depth := body.depth + 1 }

/-- Repeats the latest item. -/
def repeatLast (st : State) (min : Nat) (max : Option Nat) (greedy : Bool) :
    Except PatternError State :=
  match st.items with
  | item :: items =>
    if !item.repeatable then .error .nothingToRepeat
    else { st with items }.push
      { expr := .repetition item.expr min max (greedy != st.flags.swapGreed)
        depth := item.depth + 1 }
  | [] => .error .nothingToRepeat

end State

/-- Drops a question mark, which makes a repetition lazy. -/
def readLazy : List Char → Bool × List Char
  | '?' :: cs => (true, cs)
  | cs => (false, cs)

/-- The greatest count of a repetition. -/
def maxCount : Nat := 0xFFFFFFFF

/-- Collects digits; in verbose mode blanks may stand between them. -/
def readCountDigits (f : Flags) : Nat → List Char → List Char → List Char × List Char
  | fuel + 1, seen, c :: cs =>
    if c.isDigit then readCountDigits f fuel (c :: seen) (skip f cs) else (seen.reverse, c :: cs)
  | _, seen, cs => (seen.reverse, cs)

/-- Reads a count with blanks around it: `none` if there are no digits. -/
def readCount (f : Flags) (cs : List Char) : Except PatternError (Option Nat × List Char) :=
  let (digits, rest) := readCountDigits f (cs.length + 1) [] (cs.dropWhile Text.isBlank)
  let rest := skip f (rest.dropWhile Text.isBlank)
  if digits.isEmpty then .ok (none, rest)
  else
    let n := digits.foldl (fun n c => n * 10 + (c.toNat - 48)) 0
    if maxCount < n then .error .repetitionCount else .ok (some n, rest)

/-- Reads the counts of a repetition after the opening brace. -/
def readCounts (f : Flags) (cs : List Char) :
    Except PatternError (Nat × Option Nat × Bool × List Char) := do
  let (low, rest) ← readCount f (skip f cs)
  let some min := low | .error .repetitionCount
  let (max, rest) ← match rest with
    | ',' :: cs =>
      match skip f cs with
      | '}' :: cs => .ok (none, '}' :: cs)
      | cs => do
        let (high, rest) ← readCount f cs
        let some max := high | .error .repetitionCount
        if max < min then .error .repetitionCount
        .ok (some max, rest)
    | rest => .ok (some min, rest)
  match rest with
  | '}' :: cs =>
    let (lazy, cs) := readLazy (skip f cs)
    return (min, max, lazy, cs)
  | _ => .error .repetitionCount

/-- Whether `c` may stand in the name of a group, at its start or later. -/
def isNameChar (first : Bool) (c : Char) : Bool :=
  if first then c == '_' || Unicode.isAlphabetic c
  else c == '_' || c == '.' || c == '[' || c == ']' || Unicode.isAlphanumeric c

/-- Reads the name of a group up to its closing bracket. -/
def readName (cs : List Char) : Except PatternError (String × List Char) :=
  let name := cs.takeWhile (· != '>')
  match cs.dropWhile (· != '>'), name with
  | _ :: rest, c :: more =>
    if isNameChar true c && more.all (isNameChar false) then .ok (String.ofList name, rest)
    else .error .groupName
  | _, _ => .error .groupName

/-- Reads flags up to the colon or parenthesis after them, which stays unread: the letters seen,
whether a hyphen was seen, and the flags under way. -/
def readFlags (seen : List Char) (negated : Bool) (dangling : Bool) (f : Flags) :
    List Char → Except PatternError (Flags × List Char)
  | [] => .error .flags
  | c :: cs =>
    if c == ':' || c == ')' then if dangling then .error .flags else .ok (f, c :: cs)
    else if c == '-' then if negated then .error .flags else readFlags seen true true f cs
    else if !Flags.isName c || seen.contains c then .error .flags
    else readFlags (c :: seen) negated false (f.change c !negated) cs

/-- Reads what an opening parenthesis starts: a group, or a change of flags. -/
def readGroup (st : State) (cs : List Char) : Except PatternError (State × List Char) := do
  match skip st.flags cs with
  | '?' :: '=' :: _ | '?' :: '!' :: _ | '?' :: '<' :: '=' :: _ | '?' :: '<' :: '!' :: _ =>
    .error .lookAround
  | '?' :: 'P' :: '<' :: cs | '?' :: '<' :: cs =>
    let (name, rest) ← readName cs
    return (← st.openCapture name, rest)
  | '?' :: ')' :: _ => .error .nothingToRepeat
  | '?' :: cs =>
    match ← readFlags [] false false st.flags cs with
    | (flags, ':' :: rest) => return (← st.openGroup flags none, rest)
    | (flags, rest) =>
      return (← { st with flags }.push { expr := .empty, repeatable := false }, rest.drop 1)
  | cs => return (← st.openCapture none, cs)

/-- Reads a pattern from a state on. -/
def readFrom : Nat → State → List Char → Except PatternError State
  | 0, st, _ => .ok st
  | fuel + 1, st, cs => do
    let atom (a : Atom) (rest : List Char) := do
      readFrom fuel (← st.push { expr := ← a.toExpr st.flags }) rest
    let repetition (min : Nat) (max : Option Nat) (cs : List Char) := do
      let (lazy, rest) := readLazy cs
      readFrom fuel (← st.repeatLast min max !lazy) rest
    match skip st.flags cs with
    | [] => .ok st
    | '(' :: cs =>
      let (st, rest) ← readGroup st cs
      readFrom fuel st rest
    | ')' :: cs => readFrom fuel (← st.closeGroup) cs
    | '|' :: cs => readFrom fuel (← st.endBranch) cs
    | '[' :: cs =>
      let (nested, rest) ← Class.read st.flags cs
      readFrom fuel (← st.push { expr := .set nested.set, depth := nested.depth }) rest
    | '?' :: cs => repetition 0 (some 1) cs
    | '*' :: cs => repetition 0 none cs
    | '+' :: cs => repetition 1 none cs
    | '{' :: cs =>
      let (min, max, lazy, rest) ← readCounts st.flags cs
      readFrom fuel (← st.repeatLast min max !lazy) rest
    | '.' :: cs => atom .dot cs
    | '^' :: cs => atom (.assertion .lineStart) cs
    | '$' :: cs => atom (.assertion .lineEnd) cs
    | '\\' :: cs =>
      let (a, rest) ← readEscape st.flags cs
      atom a rest
    | c :: cs => atom (.char c false) cs

/-- A pattern read: its expression, the number of groups and the names among them. -/
structure Parsed where
  /-- What the pattern means. -/
  expr : Expr
  /-- How many groups capture. -/
  captures : Nat
  /-- Named groups and their indices, in ascending order. -/
  names : List (String × Nat)
  /-- No two groups have the same name. -/
  distinct : (names.map Prod.fst).Nodup

/-- Reads a pattern. -/
def parse (source : String) : Except PatternError Parsed := do
  let cs := source.toList
  let st ← readFrom (cs.length + 1) {} cs
  if !st.frames.isEmpty then .error .groupUnclosed
  let whole ← joinBranches (← st.endBranch).branches
  let names := st.names.reverse
  if distinct : (names.map Prod.fst).Nodup then
    return { expr := whole.expr, captures := st.captures, names, distinct }
  else .error .groupNameTwice

end BringUp.Pattern.Parser
