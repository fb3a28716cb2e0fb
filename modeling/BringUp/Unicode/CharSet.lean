/-!
# Sets of characters

A set of code points is kept as ascending, disjoint and non-adjacent ranges, so two sets with the
same members are the same value. Tables of character properties are written as *gaps*: how many
code points to skip, how many to take, and so on, in decimal.
-/

namespace BringUp.Unicode

/-- The greatest code point. -/
def lastCodePoint : Nat := 0x10FFFF

/-- A set of code points, as ascending ranges with their ends included. -/
structure CharSet where
  /-- First and last code point of each range. -/
  ranges : List (Nat × Nat)
  deriving Repr, DecidableEq, Inhabited

namespace CharSet

/-- The set without members. -/
def empty : CharSet := ⟨[]⟩

/-- All code points. -/
def univ : CharSet := ⟨[(0, lastCodePoint)]⟩

/-- The code points from `lo` to `hi`, both included. -/
def range (lo hi : Nat) : CharSet := if lo ≤ hi then ⟨[(lo, hi)]⟩ else empty

/-- The set of one character. -/
def single (c : Char) : CharSet := ⟨[(c.toNat, c.toNat)]⟩

/-- Whether the code point `n` lies in one of the ascending ranges; stops at the first range
beyond it. -/
def memRanges (n : Nat) : List (Nat × Nat) → Bool
  | [] => false
  | (lo, hi) :: rest => lo ≤ n && (n ≤ hi || memRanges n rest)

/-- Whether `c` is in the set. -/
def contains (s : CharSet) (c : Char) : Bool := memRanges c.toNat s.ranges

/-- Whether the set has no member. -/
def isEmpty (s : CharSet) : Bool := s.ranges.isEmpty

/-- Joins ranges that overlap or touch; the list is ascending in its first components. -/
def mergeRanges : List (Nat × Nat) → List (Nat × Nat)
  | [] => []
  | r :: rest => go r rest
where
  /-- Extends the current range as long as the next one reaches it. -/
  go (cur : Nat × Nat) : List (Nat × Nat) → List (Nat × Nat)
    | [] => [cur]
    | r :: rest =>
      if r.1 ≤ cur.2 + 1 then go (cur.1, max cur.2 r.2) rest else cur :: go r rest

/-- The set of the code points in any of the ranges, given in any order. -/
def ofRanges (rs : List (Nat × Nat)) : CharSet :=
  ⟨mergeRanges (rs.mergeSort fun a b => a.1 ≤ b.1)⟩

/-- The set of the code points in a list. -/
def ofPoints (points : List Nat) : CharSet := ofRanges (points.map fun n => (n, n))

/-- Members of any of the sets. -/
def unions (sets : List CharSet) : CharSet := ofRanges (sets.flatMap ranges)

/-- What lies between ascending ranges from `start` on. -/
def gapsFrom (start : Nat) : List (Nat × Nat) → List (Nat × Nat)
  | [] => if start ≤ lastCodePoint then [(start, lastCodePoint)] else []
  | (lo, hi) :: rest =>
    if start < lo then (start, lo - 1) :: gapsFrom (hi + 1) rest else gapsFrom (hi + 1) rest

/-- The code points outside the set. -/
def compl (s : CharSet) : CharSet := ⟨gapsFrom 0 s.ranges⟩

/-- Members of either set. -/
def union (s t : CharSet) : CharSet := ofRanges (s.ranges ++ t.ranges)

/-- Members of both sets. -/
def inter (s t : CharSet) : CharSet := (s.compl.union t.compl).compl

/-- Members of `s` that are not in `t`. -/
def diff (s t : CharSet) : CharSet := s.inter t.compl

/-- Members of exactly one of the two sets. -/
def symmDiff (s t : CharSet) : CharSet := (s.union t).diff (s.inter t)

/-- Whether every member is below 128. -/
def isAscii (s : CharSet) : Bool := s.ranges.all fun r => r.2 < 128

/-- The ranges that a list of gaps describes: skip, take, skip, take, … -/
def rangesOfGaps (start : Nat) : List Nat → List (Nat × Nat)
  | skip :: take :: rest =>
    (start + skip, start + skip + take - 1) :: rangesOfGaps (start + skip + take) rest
  | _ => []

/-- The entries of a table, which stand between blanks and line ends. -/
def tableEntries (table : String) : List String :=
  ((table.splitOn "\n").flatMap (·.splitOn " ")).filter (· ≠ "")

/-- Reads one more character of a table: the number under way, if any, and the numbers before
it, the latest first. -/
def readDigit : Option Nat × List Nat → Char → Option Nat × List Nat
  | (cur, seen), c =>
    if c.isDigit then (some (cur.getD 0 * 10 + (c.toNat - 48)), seen) else (none, cur.toList ++ seen)

/-- The numbers of a table, separated by blanks and line ends. -/
def readNumbers (table : String) : List Nat :=
  let (last, seen) := table.toList.foldl readDigit (none, [])
  (last.toList ++ seen).reverse

/-- The set that a table of gaps describes. -/
def ofGaps (table : String) : CharSet := ⟨rangesOfGaps 0 (readNumbers table)⟩

end CharSet

end BringUp.Unicode
