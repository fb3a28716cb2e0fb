/-!
# Blanks, words and lines

White space is that of the character standard, beyond ASCII too. Texts are taken apart as lists of
characters; `String` appears at the edge only.

* `trim` drops blanks at both ends.
* `words` gives the maximal runs of characters that are not blank.
* `lines` splits at line feeds; a carriage return just before one belongs to the line end, and a
  last line needs no line end.
-/

namespace BringUp.Text

/-- Whether `c` is white space. -/
def isBlank (c : Char) : Bool :=
  let n := c.toNat
  (9 ≤ n && n ≤ 13) || n == 0x20 || n == 0x85 || n == 0xA0 || n == 0x1680 ||
    (0x2000 ≤ n && n ≤ 0x200A) || n == 0x2028 || n == 0x2029 || n == 0x202F || n == 0x205F ||
    n == 0x3000

/-- The characters without the blanks at their front. -/
def trimFront (cs : List Char) : List Char := cs.dropWhile isBlank

/-- The characters without the blanks at their end. -/
def trimBack (cs : List Char) : List Char := (cs.reverse.dropWhile isBlank).reverse

/-- The characters without the blanks at both ends. -/
def trimChars (cs : List Char) : List Char := trimBack (trimFront cs)

/-- The text without the blanks at both ends. -/
def trim (s : String) : String := String.ofList (trimChars s.toList)

/-- The pieces between the characters that satisfy `p`; always at least one. -/
def pieces (p : Char → Bool) : List Char → List (List Char)
  | [] => [[]]
  | c :: cs =>
    if p c then [] :: pieces p cs
    else match pieces p cs with
      | piece :: rest => (c :: piece) :: rest
      | [] => [[c]]

/-- The words of a text, without the blanks around them. -/
def words (s : String) : List String :=
  ((pieces isBlank s.toList).filter (!·.isEmpty)).map String.ofList

/-- A line without the carriage return at its end, if there is one. -/
def dropReturn (cs : List Char) : List Char :=
  if cs.getLast? == some '\r' then cs.dropLast else cs

/-- Lines of the pieces between line feeds: all but the last piece had a line feed after it, and
an empty last piece is no line. -/
def linesOfPieces : List (List Char) → List (List Char)
  | [] => []
  | [last] => if last.isEmpty then [] else [last]
  | piece :: rest => dropReturn piece :: linesOfPieces rest

/-- The lines of a text. -/
def lines (s : String) : List String :=
  (linesOfPieces (pieces (· == '\n') s.toList)).map String.ofList

end BringUp.Text
