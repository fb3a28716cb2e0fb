import BringUp.Unicode.CharSet

/-!
# Characters as octets

A character is encoded by one to four octets. The encodings of a set of characters are listed as
sequences of octet ranges, in ascending order: a sequence stands for all choices of one octet from
each of its ranges.
-/

namespace BringUp.Pattern.Octets

open Unicode (CharSet)

/-- The first and last octets at each place of encodings with equal length. -/
abbrev Sequence := List (Nat × Nat)

/-- How many octets follow the first one of a code point. -/
def following (code : Nat) : Nat :=
  if code < 0x80 then 0 else if code < 0x800 then 1 else if code < 0x10000 then 2 else 3

/-- The encoding of a code point. -/
def encode (code : Nat) : List Nat :=
  match following code with
  | 0 => [code]
  | n =>
    let mark := if n = 1 then 0xC0 else if n = 2 then 0xE0 else 0xF0
    (mark + code / Nat.pow 64 n) ::
      (List.range n).reverse.map fun i => 0x80 + code / Nat.pow 64 i % 64

/-- Cuts a range of code points where the number of octets changes, at the surrogates and where
the last `i` octets do not run through all values, and gives the octets of each part. -/
def ofRange : Nat → Nat → Nat → List Sequence
  | 0, _, _ => []
  | fuel + 1, lo, hi =>
    let cut (bound : Nat) := ofRange fuel lo bound ++ ofRange fuel (bound + 1) hi
    let inside (bound : Nat) := lo ≤ bound && bound < hi
    let unaligned (i : Nat) : Option Nat :=
      let block := Nat.pow 64 i
      if lo / block == hi / block then none
      else if lo % block != 0 then some (lo / block * block + block - 1)
      else if hi % block != block - 1 then some (hi / block * block - 1)
      else none
    if hi < lo then []
    else if inside 0xD7FF then ofRange fuel lo 0xD7FF ++ ofRange fuel 0xE000 hi
    else if 0xD800 ≤ lo && lo ≤ 0xDFFF then ofRange fuel 0xE000 hi
    else match [0x7F, 0x7FF, 0xFFFF].find? inside with
      | some bound => cut bound
      | none =>
        match ((List.range (following hi)).map (· + 1)).findSome? unaligned with
        | some bound => cut bound
        | none => [(encode lo).zip (encode hi)]

/-- The encodings of the characters of a set. -/
def ofSet (s : CharSet) : List Sequence := s.ranges.flatMap fun (lo, hi) => ofRange 64 lo hi

end BringUp.Pattern.Octets
