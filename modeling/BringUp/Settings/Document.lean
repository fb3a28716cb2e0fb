import BringUp.Text.Numeral

/-!
# Settings documents

A settings document is a TOML text of keys and values, one pair on a line, with comments after `#`.
Settings are whole numbers and texts, so tables, arrays and values of other kinds have no place in
it, and a document with one of them is refused like one that breaks the rules of TOML.

* Keys are bare or quoted.
* Whole numbers are decimal, hexadecimal, octal or binary, have at most 64 bits, and may have an
  underscore between two digits.
* Texts are quoted, with escapes or without, and may span lines when three quotes surround them.
-/

namespace BringUp.Settings

/-- A value in a settings document. -/
inductive Value where
  /-- A whole number. -/
  | integer (n : Int)
  /-- A text. -/
  | text (s : String)
  deriving Repr, DecidableEq

namespace Document

/-- Whether a character is a blank within a line. -/
def isBlank (c : Char) : Bool := c == ' ' || c == '\t'

/-- Whether a character may stand in a comment or a text: no control character but a tab. -/
def isPlain (c : Char) : Bool := c == '\t' || (0x20 ≤ c.toNat && c.toNat ≠ 0x7F)

/-- Whether a character may stand in a bare key. -/
def isBare (c : Char) : Bool := c.isAlphanum || c == '_' || c == '-'

/-- What follows the line end with which a text starts, if it starts with one. -/
def dropLineEnd? : List Char → Option (List Char)
  | '\n' :: cs => some cs
  | '\r' :: '\n' :: cs => some cs
  | _ => none

/-- A text read so far, with another character before it. -/
def prepend (c : Option Char) (read : Option (List Char × List Char)) :
    Option (List Char × List Char) :=
  match c, read with
  | some c, some (cs, rest) => some (c :: cs, rest)
  | _, _ => none

/-! ## Texts -/

/-- The value of a hexadecimal digit. -/
def hexDigit? (c : Char) : Option Nat :=
  if c.isDigit then some (c.toNat - 48)
  else if 'a' ≤ c && c ≤ 'f' then some (c.toNat - 87)
  else if 'A' ≤ c && c ≤ 'F' then some (c.toNat - 55)
  else none

/-- The character whose code point has these hexadecimal digits. -/
def codePoint? (digits : List Char) : Option Char := do
  let values ← digits.mapM hexDigit?
  let n := values.foldl (fun n d => n * 16 + d) 0
  if h : n.isValidChar then some (Char.ofNatAux n h) else none

/-- The character of a short escape. -/
def escape? : Char → Option Char
  | 'b' => some '\x08'
  | 't' => some '\t'
  | 'n' => some '\n'
  | 'f' => some '\x0c'
  | 'r' => some '\r'
  | '"' => some '"'
  | '\\' => some '\\'
  | _ => none

/-- A character that stands for itself between quotes. -/
def plain? (c : Char) : Option Char := if isPlain c && c ≠ '\\' then some c else none

/-- Reads a text with escapes up to its closing quote. -/
def readBasic : List Char → Option (List Char × List Char)
  | [] => none
  | '"' :: rest => some ([], rest)
  | '\\' :: 'u' :: a :: b :: c :: d :: rest => prepend (codePoint? [a, b, c, d]) (readBasic rest)
  | '\\' :: 'U' :: a :: b :: c :: d :: e :: f :: g :: h :: rest =>
    prepend (codePoint? [a, b, c, d, e, f, g, h]) (readBasic rest)
  | '\\' :: c :: rest => prepend (escape? c) (readBasic rest)
  | c :: rest => prepend (plain? c) (readBasic rest)

/-- Reads a text without escapes up to its closing quote. -/
def readLiteral : List Char → Option (List Char × List Char)
  | [] => none
  | '\'' :: rest => some ([], rest)
  | c :: rest => prepend (if isPlain c then some c else none) (readLiteral rest)

/-- Whether nothing but blanks stands before the next line end. -/
def endsLine (cs : List Char) : Bool := (dropLineEnd? (cs.dropWhile isBlank)).isSome

/-- Reads a text with escapes up to three closing quotes. Two quotes more belong to the text. A
backslash at the end of a line removes the blanks and line ends up to the next other character;
`skipping` tells that these are being removed. -/
def readBasicLines : Bool → List Char → Option (List Char × List Char)
  | _, [] => none
  | true, ' ' :: rest => readBasicLines true rest
  | true, '\t' :: rest => readBasicLines true rest
  | true, '\n' :: rest => readBasicLines true rest
  | true, '\r' :: '\n' :: rest => readBasicLines true rest
  | _, '"' :: '"' :: '"' :: '"' :: '"' :: rest => some (['"', '"'], rest)
  | _, '"' :: '"' :: '"' :: '"' :: rest => some (['"'], rest)
  | _, '"' :: '"' :: '"' :: rest => some ([], rest)
  | _, '\\' :: 'u' :: a :: b :: c :: d :: rest =>
    prepend (codePoint? [a, b, c, d]) (readBasicLines false rest)
  | _, '\\' :: 'U' :: a :: b :: c :: d :: e :: f :: g :: h :: rest =>
    prepend (codePoint? [a, b, c, d, e, f, g, h]) (readBasicLines false rest)
  | _, '\\' :: c :: rest =>
    if endsLine (c :: rest) then
      if c == '\r' then readBasicLines true (rest.drop 1) else readBasicLines true rest
    else prepend (escape? c) (readBasicLines false rest)
  | _, '\r' :: '\n' :: rest => prepend (some '\n') (readBasicLines false rest)
  | _, '\n' :: rest => prepend (some '\n') (readBasicLines false rest)
  | _, c :: rest => prepend (plain? c) (readBasicLines false rest)
termination_by _ cs => cs.length

/-- Reads a text without escapes up to three closing quotes. Two quotes more belong to the text. -/
def readLiteralLines : List Char → Option (List Char × List Char)
  | [] => none
  | '\'' :: '\'' :: '\'' :: '\'' :: '\'' :: rest => some (['\'', '\''], rest)
  | '\'' :: '\'' :: '\'' :: '\'' :: rest => some (['\''], rest)
  | '\'' :: '\'' :: '\'' :: rest => some ([], rest)
  | '\r' :: '\n' :: rest => prepend (some '\n') (readLiteralLines rest)
  | '\n' :: rest => prepend (some '\n') (readLiteralLines rest)
  | c :: rest => prepend (if isPlain c then some c else none) (readLiteralLines rest)

/-- What follows the line end at the start of a text, or all of it. -/
def dropFirstLineEnd (cs : List Char) : List Char := (dropLineEnd? cs).getD cs

/-! ## Whole numbers -/

/-- The values of digits, where an underscore may stand between two of them. -/
def digitValues? (digit? : Char → Option Nat) : List Char → Option (List Nat)
  | [] => none
  | [c] => (digit? c).map ([·])
  | c :: '_' :: rest =>
    match digit? c, digitValues? digit? rest with
    | some d, some ds => some (d :: ds)
    | _, _ => none
  | c :: rest =>
    match digit? c, digitValues? digit? rest with
    | some d, some ds => some (d :: ds)
    | _, _ => none

/-- The value of a digit to a base of at most sixteen. -/
def digitBelow? (base : Nat) (c : Char) : Option Nat := (hexDigit? c).filter (· < base)

/-- The number with the given digits to a base. -/
def readDigits? (base : Nat) (cs : List Char) : Option Nat :=
  (digitValues? (digitBelow? base) cs).map fun ds => ds.foldl (fun n d => n * base + d) 0

/-- Reads decimal digits; a zero leads no other digit. -/
def readDecimal? (cs : List Char) : Option Nat :=
  match cs with
  | '0' :: _ :: _ => none
  | _ => readDigits? 10 cs

/-- Reads a whole number of any size. -/
def readUnbounded? : List Char → Option Int
  | '0' :: 'x' :: cs => (readDigits? 16 cs).map Int.ofNat
  | '0' :: 'o' :: cs => (readDigits? 8 cs).map Int.ofNat
  | '0' :: 'b' :: cs => (readDigits? 2 cs).map Int.ofNat
  | '+' :: cs => (readDecimal? cs).map Int.ofNat
  | '-' :: cs => (readDecimal? cs).map fun n => -(n : Int)
  | cs => (readDecimal? cs).map Int.ofNat

/-- Reads a whole number of 64 bits. -/
def readInteger? (cs : List Char) : Option Int :=
  (readUnbounded? cs).filter fun n =>
    -(Text.signBound64 : Int) ≤ n && n < Text.signBound64

/-! ## Lines -/

/-- Reads a key. -/
def readKey? (cs : List Char) : Option (String × List Char) :=
  match cs with
  | '"' :: rest => (readBasic rest).map fun (key, rest) => (String.ofList key, rest)
  | '\'' :: rest => (readLiteral rest).map fun (key, rest) => (String.ofList key, rest)
  | _ =>
    let key := cs.takeWhile isBare
    if key.isEmpty then none else some (String.ofList key, cs.dropWhile isBare)

/-- Whether a character may stand in a number. -/
def inNumber (c : Char) : Bool := c.isAlphanum || c == '_' || c == '+' || c == '-'

/-- Reads a value. -/
def readValue? (cs : List Char) : Option (Value × List Char) :=
  let textOf : Option (List Char × List Char) → Option (Value × List Char) :=
    Option.map fun (text, rest) => (.text (String.ofList text), rest)
  match cs with
  | '"' :: '"' :: '"' :: rest => textOf (readBasicLines false (dropFirstLineEnd rest))
  | '"' :: rest => textOf (readBasic rest)
  | '\'' :: '\'' :: '\'' :: rest => textOf (readLiteralLines (dropFirstLineEnd rest))
  | '\'' :: rest => textOf (readLiteral rest)
  | _ => (readInteger? (cs.takeWhile inNumber)).map fun n => (.integer n, cs.dropWhile inNumber)

/-- What follows the line end after blanks and a comment: nothing but these may stand there. -/
def dropLine? (cs : List Char) : Option (List Char) :=
  let cs := cs.dropWhile isBlank
  let rest := match cs with
    | '#' :: comment => comment.dropWhile isPlain
    | _ => cs
  if rest.isEmpty then some [] else dropLineEnd? rest

/-- Reads the pair on a line. -/
def readPair? (cs : List Char) : Option ((String × Value) × List Char) := do
  let (key, cs) ← readKey? cs
  match cs.dropWhile isBlank with
  | '=' :: cs =>
    let (value, cs) ← readValue? (cs.dropWhile isBlank)
    return ((key, value), ← dropLine? cs)
  | _ => none

/-- Reads at most `count` lines. -/
def readLines? : Nat → List Char → Option (List (String × Value))
  | _, [] => some []
  | 0, _ :: _ => none
  | count + 1, cs =>
    match dropLine? cs with
    | some rest => readLines? count rest
    | none =>
      match readPair? (cs.dropWhile isBlank) with
      | some (pair, rest) => (readLines? count rest).map (pair :: ·)
      | none => none

/-- Reads a document: its pairs in their order. A byte order mark before it does not count, and
every line has a character at least. -/
def read? (document : String) : Option (List (String × Value)) :=
  let cs := document.toList
  let cs := if cs.head? == some '\uFEFF' then cs.drop 1 else cs
  readLines? cs.length cs

end Document

end BringUp.Settings
