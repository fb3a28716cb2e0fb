import BringUp.Unicode.Classes

/-!
# Pattern expressions

What a pattern means once its flags are resolved: sets of characters, assertions about a place
between characters, sequence, choice, repetition and captured groups. Choices and repetitions are
ordered: the first branch, or one more round if greedy, is tried before the other way.
-/

namespace BringUp.Pattern

/-- An assertion about a place between two characters. Word boundaries know word characters of all
scripts, or of ASCII alone. -/
inductive Look where
  /-- The start of the text. -/
  | textStart
  /-- The end of the text. -/
  | textEnd
  /-- The start of a line; only a line feed ends a line. -/
  | lineStart
  /-- The end of a line. -/
  | lineEnd
  /-- The start of a line where carriage returns end lines too. -/
  | lineStartReturn
  /-- The end of a line where carriage returns end lines too. -/
  | lineEndReturn
  /-- A word character on exactly one side. -/
  | boundary (ascii : Bool)
  /-- Word characters on both sides or on none. -/
  | noBoundary (ascii : Bool)
  /-- A word starts here. -/
  | wordStart (ascii : Bool)
  /-- A word ends here. -/
  | wordEnd (ascii : Bool)
  /-- No word character before. -/
  | wordStartHalf (ascii : Bool)
  /-- No word character after. -/
  | wordEndHalf (ascii : Bool)
  deriving Repr, DecidableEq

namespace Look

/-- Whether there is a character and it is a word character. -/
def isWord (ascii : Bool) : Option Char → Bool
  | none => false
  | some c => if ascii then c.isAlphanum || c == '_' else Unicode.isWord c

/-- Whether the assertion holds between the characters `before` and `after`. -/
def holds (look : Look) (before after : Option Char) : Bool :=
  match look with
  | textStart => before.isNone
  | textEnd => after.isNone
  | lineStart => before.isNone || before == some '\n'
  | lineEnd => after.isNone || after == some '\n'
  | lineStartReturn =>
    before.isNone || before == some '\n' || (before == some '\r' && after != some '\n')
  | lineEndReturn =>
    after.isNone || after == some '\r' || (after == some '\n' && before != some '\r')
  | boundary ascii => isWord ascii before != isWord ascii after
  | noBoundary ascii => isWord ascii before == isWord ascii after
  | wordStart ascii => !isWord ascii before && isWord ascii after
  | wordEnd ascii => isWord ascii before && !isWord ascii after
  | wordStartHalf ascii => !isWord ascii before
  | wordEndHalf ascii => !isWord ascii after

end Look

/-- A pattern expression. -/
inductive Expr where
  /-- Matches the empty text. -/
  | empty
  /-- Matches one character of a set. -/
  | set (s : Unicode.CharSet)
  /-- Matches the empty text where the assertion holds. -/
  | look (a : Look)
  /-- One expression after the other. -/
  | cat (first second : Expr)
  /-- One expression or the other, the first preferred. -/
  | alt (first second : Expr)
  /-- At least `min` rounds and, if there is a `max`, no more than that. -/
  | rep (body : Expr) (min : Nat) (max : Option Nat) (greedy : Bool)
  /-- Remembers what `body` matched as the group `index`. -/
  | group (index : Nat) (body : Expr)
  deriving Repr, Inhabited, DecidableEq

namespace Expr

/-- The steps of a sequence; an expression that is no sequence is its only step. -/
def steps : Expr → List Expr
  | empty => []
  | cat a b => a.steps ++ b.steps
  | e => [e]

/-- The branches of a choice; an expression that is no choice is its only branch. -/
def branches : Expr → List Expr
  | alt a b => a.branches ++ b.branches
  | e => [e]

/-- The steps one after the other. -/
def ofSteps : List Expr → Expr
  | [] => empty
  | [e] => e
  | e :: es => cat e (ofSteps es)

/-- Any of the branches, the earlier ones preferred. -/
def ofBranches : List Expr → Expr
  | [] => set .empty
  | [e] => e
  | e :: es => alt e (ofBranches es)

/-- All expressions one after the other. -/
def sequence (es : List Expr) : Expr := ofSteps (es.flatMap steps)

/-- The set of an expression that takes one character. -/
def set? : Expr → Option Unicode.CharSet
  | set s => some s
  | _ => none

/-- Whether the expression takes one particular character. -/
def isCharacter : Expr → Bool
  | set ⟨[(lo, hi)]⟩ => lo == hi
  | _ => false

/-- Whether the expression takes one character of a set with more members or with none. -/
def isClass (e : Expr) : Bool := e.set?.isSome && !e.isCharacter

/-- The branches as one choice. Branches that all are characters make a set, and so do branches
that all are classes. -/
def union (es : List Expr) : Expr :=
  match es.flatMap branches with
  | [e] => e
  | es =>
    if es.all isCharacter || es.all isClass then set (.unions (es.filterMap set?))
    else ofBranches es

/-- The steps of a sequence, with neighbouring characters put together. -/
def words (steps : List Expr) : List (List Expr) :=
  steps.splitBy fun a b => a.isCharacter && b.isCharacter

/-- The longest list that both lists start with. -/
def sharedStart {α : Type} [BEq α] : List α → List α → List α
  | a :: as, b :: bs => if a == b then a :: sharedStart as bs else []
  | _, _ => []

/-- Any of the expressions, the earlier ones preferred. If all of them are sequences that start
with the same steps, these come first and the choice is between what is left. -/
def choice (es : List Expr) : Expr :=
  let whole := union es
  match whole.branches.map fun e => words e.steps with
  | first :: second :: rest =>
    let shared := (second :: rest).foldl sharedStart first
    if (first :: second :: rest).all (2 ≤ ·.length) && !shared.isEmpty then
      let left := (first :: second :: rest).map fun ws => ofSteps (ws.drop shared.length).flatten
      sequence (shared.flatten ++ [union left])
    else whole
  | _ => whole

/-- Whether the expression can match without taking a character. -/
def nullable : Expr → Bool
  | empty | look _ => true
  | set _ => false
  | cat a b => a.nullable && b.nullable
  | alt a b => a.nullable || b.nullable
  | rep e min _ _ => min == 0 || e.nullable
  | group _ e => e.nullable

/-- Whether the expression never takes a character. -/
def zeroWidth : Expr → Bool
  | empty | look _ => true
  | set _ => false
  | cat a b => a.zeroWidth && b.zeroWidth
  | alt a b => a.zeroWidth && b.zeroWidth
  | rep e _ max _ => max == some 0 || e.zeroWidth
  | group _ e => e.zeroWidth

/-- A repetition. One round is the body itself and no round is empty. More than one round of an
expression that takes no character adds nothing. -/
def repetition (body : Expr) (min : Nat) (max : Option Nat) (greedy : Bool) : Expr :=
  let (min, max) :=
    if body.zeroWidth then (Nat.min min 1, some ((max.map (Nat.min · 1)).getD 1)) else (min, max)
  if max == some 0 then empty
  else if min == 1 && max == some 1 then body
  else rep body min max greedy

end Expr

end BringUp.Pattern
