import BringUp.Pattern.Error
import BringUp.Pattern.Expr
import BringUp.Text.Blank
import BringUp.Unicode.Folding
import BringUp.Unicode.Query

/-!
# Flags, atoms and escapes

An atom is the least part of a pattern that stands for something: a character, a class of
characters or an assertion. What it stands for depends on the flags at its place. In verbose mode
blanks and comments may stand between the parts of an escape too.
-/

namespace BringUp.Pattern

/-- Flags that change what the parts of a pattern stand for. -/
structure Flags where
  /-- Letters stand for both cases. -/
  ignoreCase : Bool := false
  /-- Line assertions hold at line ends inside the text. -/
  multiLine : Bool := false
  /-- The dot stands for line ends too. -/
  dotAll : Bool := false
  /-- Repetitions are lazy unless marked. -/
  swapGreed : Bool := false
  /-- Classes and boundaries know all scripts. -/
  unicode : Bool := true
  /-- Blanks and comments do not count. -/
  verbose : Bool := false
  /-- Carriage returns end lines. -/
  returns : Bool := false
  deriving Repr, DecidableEq

namespace Flags

/-- Whether a letter names a flag. -/
def isName (c : Char) : Bool := ['i', 'm', 's', 'U', 'u', 'x', 'R'].contains c

/-- The flags after one of them was switched on or off by its letter. -/
def change (f : Flags) (c : Char) (on : Bool) : Flags :=
  match c with
  | 'i' => { f with ignoreCase := on }
  | 'm' => { f with multiLine := on }
  | 's' => { f with dotAll := on }
  | 'U' => { f with swapGreed := on }
  | 'u' => { f with unicode := on }
  | 'x' => { f with verbose := on }
  | _ => { f with returns := on }

end Flags

/-- Skips blanks, and comments from `#` to the end of the line. -/
def skipVerbose (inComment : Bool) : List Char → List Char
  | [] => []
  | c :: cs =>
    if inComment then skipVerbose (c != '\n') cs
    else if Text.isBlank c then skipVerbose false cs
    else if c == '#' then skipVerbose true cs
    else c :: cs

/-- Skips what does not count under the flags. -/
def skip (f : Flags) (cs : List Char) : List Char := if f.verbose then skipVerbose false cs else cs

/-- The classes with a letter of their own. -/
inductive Shorthand where
  /-- Decimal digits. -/
  | digit
  /-- White space. -/
  | space
  /-- Word characters. -/
  | word
  deriving Repr, DecidableEq

namespace Shorthand

/-- The characters of the class. -/
def members : Shorthand → Unicode.CharSet
  | digit => Unicode.digits
  | space => Unicode.blanks
  | word => Unicode.wordCharacters

/-- The characters of the class below 128. -/
def asciiMembers : Shorthand → Unicode.CharSet
  | digit => .range 48 57
  | space => .ofRanges [(9, 13), (32, 32)]
  | word => .ofRanges [(48, 57), (65, 90), (95, 95), (97, 122)]

end Shorthand

/-- The assertions that a pattern can write. -/
inductive Assertion where
  /-- The caret. -/
  | lineStart
  /-- The dollar sign. -/
  | lineEnd
  /-- Any other assertion; word boundaries are those of ASCII if `true` is put in. -/
  | plain (look : Bool → Look)

/-- The least part of a pattern. -/
inductive Atom where
  /-- A character; `octet` if it was written by two hexadecimal digits. -/
  | char (c : Char) (octet : Bool)
  /-- Any character, line ends apart. -/
  | dot
  /-- A class with a letter, or what is outside it. -/
  | shorthand (k : Shorthand) (negated : Bool)
  /-- Characters with a property, or those without. -/
  | property (q : Unicode.Query) (negated : Bool)
  /-- An assertion. -/
  | assertion (a : Assertion)

/-- The set with the other cases of its members, if case does not count. -/
def fold (f : Flags) (s : Unicode.CharSet) : Unicode.CharSet :=
  if !f.ignoreCase then s else if f.unicode then Unicode.Folding.close s
  else Unicode.Folding.closeAscii s

/-- What is outside the set, if `negated`; without the tables of properties there is no outside,
as it would hold octets that are no characters. -/
def negate (f : Flags) (negated : Bool) (s : Unicode.CharSet) :
    Except PatternError Unicode.CharSet :=
  if !negated then .ok s else if f.unicode then .ok s.compl else .error .needsUnicode

namespace Atom

/-- The code point of a character in brackets. -/
def codePoint (f : Flags) (c : Char) : Except PatternError Nat :=
  if f.unicode || c.toNat < 128 then .ok c.toNat else .error .needsUnicode

/-- The characters an atom in brackets stands for. -/
def toSet (f : Flags) : Atom → Except PatternError Unicode.CharSet
  | .char c _ => do
    let n ← codePoint f c
    return .range n n
  | .shorthand k negated => negate f negated (if f.unicode then k.members else k.asciiMembers)
  | .property q negated =>
    if !f.unicode then .error .needsUnicode
    else match q.members? with
      | none => .error .property
      | some s => negate f negated (fold f s)
  | .dot | .assertion _ => .error .classItem

/-- The assertion under the flags. -/
def look (f : Flags) : Assertion → Look
  | .lineStart =>
    if !f.multiLine then .textStart else if f.returns then .lineStartReturn else .lineStart
  | .lineEnd => if !f.multiLine then .textEnd else if f.returns then .lineEndReturn else .lineEnd
  | .plain a => a !f.unicode

/-- The characters that the dot stands for. -/
def dotMembers (f : Flags) : Unicode.CharSet :=
  if f.dotAll then .univ
  else (Unicode.CharSet.ofRanges ([(10, 10)] ++ if f.returns then [(13, 13)] else [])).compl

/-- The expression of an atom outside brackets. -/
def toExpr (f : Flags) : Atom → Except PatternError Expr
  | .char c octet =>
    if !f.unicode && octet && c.toNat ≥ 128 then .error .needsUnicode
    else .ok (.set (fold f (.single c)))
  | .dot => if f.unicode then .ok (.set (dotMembers f)) else .error .needsUnicode
  | .assertion a => .ok (.look (look f a))
  | atom => do return .set (← atom.toSet f)

end Atom

/-- The value of a hexadecimal digit. -/
def hexValue? (c : Char) : Option Nat :=
  if '0' ≤ c && c ≤ '9' then some (c.toNat - 48)
  else if 'a' ≤ c && c ≤ 'f' then some (c.toNat - 87)
  else if 'A' ≤ c && c ≤ 'F' then some (c.toNat - 55)
  else none

/-- The character with a code point, if there is one. -/
def charOf (n : Nat) : Except PatternError Char :=
  if n.isValidChar then .ok (Char.ofNat n) else .error .hexadecimal

/-- Reads `count` hexadecimal digits on top of the value `n`. -/
def readHexDigits (f : Flags) :
    Nat → Nat → List Char → Except PatternError (Nat × List Char)
  | 0, n, cs => .ok (n, cs)
  | _ + 1, _, [] => .error .escape
  | count + 1, n, c :: cs =>
    match hexValue? c with
    | some d => readHexDigits f count (n * 16 + d) (skip f cs)
    | none => .error .hexadecimal

/-- Collects what stands before the closing brace. -/
def readBraced (f : Flags) :
    Nat → List Char → List Char → Except PatternError (List Char × List Char)
  | 0, _, _ => .error .escape
  | _ + 1, _, [] => .error .escape
  | fuel + 1, seen, c :: cs =>
    if c == '}' then .ok (seen.reverse, cs) else readBraced f fuel (c :: seen) (skip f cs)

/-- Reads a hexadecimal escape after its letter; `count` digits unless they stand in braces. -/
def readHex (f : Flags) (count : Nat) (cs : List Char) :
    Except PatternError (Atom × List Char) := do
  match skip f cs with
  | [] => .error .escape
  | '{' :: cs =>
    let (digits, rest) ← readBraced f (cs.length + 1) [] (skip f cs)
    if digits.isEmpty then .error .hexadecimal
    match digits.mapM hexValue? with
    | none => .error .hexadecimal
    | some ds =>
      let c ← charOf (ds.foldl (fun n d => n * 16 + d) 0)
      return (.char c false, skip f rest)
  | cs =>
    let (n, rest) ← readHexDigits f count 0 cs
    let c ← charOf n
    return (.char c (count == 2), rest)

/-- Cuts a query at the first place of a separator. -/
def cutQuery? (sep : List Char) : List Char → Option (List Char × List Char)
  | [] => none
  | c :: cs =>
    if sep.isPrefixOf (c :: cs) then some ([], (c :: cs).drop sep.length)
    else (cutQuery? sep cs).map fun (a, b) => (c :: a, b)

/-- The query that stands in the braces of a property, and whether an unequal sign turns it into
its opposite. -/
def queryOf (cs : List Char) : Unicode.Query × Bool :=
  let valued (cut : List Char × List Char) : Unicode.Query :=
    .value (String.ofList cut.1) (String.ofList cut.2)
  match cutQuery? ['!', '='] cs with
  | some cut => (valued cut, true)
  | none =>
    match cutQuery? [':'] cs <|> cutQuery? ['='] cs with
    | some cut => (valued cut, false)
    | none => (.name (String.ofList cs), false)

/-- Reads a property after its letter. -/
def readProperty (f : Flags) (negated : Bool) (cs : List Char) :
    Except PatternError (Atom × List Char) := do
  match skip f cs with
  | [] => .error .escape
  | '{' :: cs =>
    let (name, rest) ← readBraced f (cs.length + 1) [] (skip f cs)
    let (query, opposite) := queryOf name
    return (.property query (negated != opposite), rest)
  | '\\' :: _ => .error .property
  | c :: cs => return (.property (.name (String.ofList [c])) negated, skip f cs)

/-- Reads the name of a word boundary up to its closing brace. -/
def readBoundaryName (f : Flags) :
    Nat → List Char → List Char → Except PatternError (List Char × List Char)
  | 0, _, _ => .error .escape
  | _ + 1, _, [] => .error .escape
  | fuel + 1, seen, c :: cs =>
    if c.isAlpha || c == '-' then readBoundaryName f fuel (c :: seen) (skip f cs)
    else if c == '}' then .ok (seen.reverse, cs)
    else .error .escape

/-- Reads what may follow the letter of a word boundary: the name of a special one in braces.
Braces that cannot hold such a name belong to a repetition. -/
def readBoundary (f : Flags) (cs : List Char) : Except PatternError (Atom × List Char) :=
  let plain := (Atom.assertion (.plain .boundary), cs)
  match cs with
  | '{' :: inner =>
    match skip f inner with
    | [] => .error .escape
    | c :: rest =>
      if !(c.isAlpha || c == '-') then .ok plain
      else do
        let (name, rest) ← readBoundaryName f (rest.length + 2) [] (c :: rest)
        match String.ofList name with
        | "start" => return (.assertion (.plain .wordStart), rest)
        | "end" => return (.assertion (.plain .wordEnd), rest)
        | "start-half" => return (.assertion (.plain .wordStartHalf), rest)
        | "end-half" => return (.assertion (.plain .wordEndHalf), rest)
        | _ => .error .escape
  | _ => .ok plain

/-- Whether a backslash makes `c` stand for itself: any ASCII character but letters, digits and
angle brackets. -/
def isEscapable (c : Char) : Bool :=
  c.toNat < 128 && !c.isAlphanum && c != '<' && c != '>'

/-- Reads an escape after its backslash. -/
def readEscape (f : Flags) : List Char → Except PatternError (Atom × List Char)
  | [] => .error .escape
  | c :: cs =>
    if c.isDigit then .error .backReference
    else if isEscapable c then .ok (.char c false, cs)
    else match c with
      | 'x' => readHex f 2 cs
      | 'u' => readHex f 4 cs
      | 'U' => readHex f 8 cs
      | 'p' => readProperty f false cs
      | 'P' => readProperty f true cs
      | 'd' => .ok (.shorthand .digit false, cs)
      | 'D' => .ok (.shorthand .digit true, cs)
      | 's' => .ok (.shorthand .space false, cs)
      | 'S' => .ok (.shorthand .space true, cs)
      | 'w' => .ok (.shorthand .word false, cs)
      | 'W' => .ok (.shorthand .word true, cs)
      | 'a' => .ok (.char '\x07' false, cs)
      | 'f' => .ok (.char '\x0c' false, cs)
      | 't' => .ok (.char '\t' false, cs)
      | 'n' => .ok (.char '\n' false, cs)
      | 'r' => .ok (.char '\r' false, cs)
      | 'v' => .ok (.char '\x0b' false, cs)
      | 'A' => .ok (.assertion (.plain fun _ => .textStart), cs)
      | 'z' => .ok (.assertion (.plain fun _ => .textEnd), cs)
      | 'b' => readBoundary f cs
      | 'B' => .ok (.assertion (.plain .noBoundary), cs)
      | '<' => .ok (.assertion (.plain .wordStart), cs)
      | '>' => .ok (.assertion (.plain .wordEnd), cs)
      | _ => .error .escape

end BringUp.Pattern
