import BringUp.Unicode.Category
import BringUp.Unicode.Property
import BringUp.Unicode.Script

/-!
# Words of a text

Where a word ends is told from the classes of the characters around that place: letters hold
together, and so do digits, and some signs hold them together in pairs, such as the apostrophe of
`can't` and the point of `3.2`. No character has two of the classes here.
-/

namespace BringUp.Unicode

/-- The part that a character plays in a word. -/
inductive WordClass where
  /-- The carriage return. -/
  | cr
  /-- The line feed. -/
  | lf
  /-- Other line ends. -/
  | newline
  /-- Marks; they belong to what is before them. -/
  | extend
  /-- Joins two pictures into one. -/
  | zwj
  /-- Format characters; they belong to what is before them. -/
  | format
  /-- Katakana. -/
  | katakana
  /-- Letters of Hebrew. -/
  | hebrewLetter
  /-- Letters of the other scripts that part words by blanks. -/
  | aLetter
  /-- The straight apostrophe. -/
  | singleQuote
  /-- The straight quote. -/
  | doubleQuote
  /-- Holds letters and digits together. -/
  | midNumLet
  /-- Holds letters together. -/
  | midLetter
  /-- Holds digits together. -/
  | midNum
  /-- Digits, and the signs that go with a number. -/
  | numeric
  /-- Connectors; they hold together whatever is next to them. -/
  | extendNumLet
  /-- One half of a flag. -/
  | regionalIndicator
  /-- Blanks at which a line may end. -/
  | wSegSpace
  deriving Repr, DecidableEq

namespace WordClass

/-- The class of that name, in small letters without blanks, hyphens or underscores. -/
def ofName? : String → Option WordClass
  | "cr" => some cr
  | "lf" => some lf
  | "nl" | "newline" => some newline
  | "extend" => some extend
  | "zwj" => some zwj
  | "fo" | "format" => some format
  | "ka" | "katakana" => some katakana
  | "hl" | "hebrewletter" => some hebrewLetter
  | "le" | "aletter" => some aLetter
  | "sq" | "singlequote" => some singleQuote
  | "dq" | "doublequote" => some doubleQuote
  | "mb" | "midnumlet" => some midNumLet
  | "ml" | "midletter" => some midLetter
  | "mn" | "midnum" => some midNum
  | "nu" | "numeric" => some numeric
  | "ex" | "extendnumlet" => some extendNumLet
  | "ri" | "regionalindicator" => some regionalIndicator
  | "wsegspace" => some wSegSpace
  | _ => none

/-- The marks that belong to what is before them. -/
def marks : Thunk CharSet := .mk fun _ => .unions
  [.ofGaps Property.graphemeExtend, .ofGaps Property.emojiModifier, Category.members ["Mc"]]

/-- The characters of Katakana, and those that are written among them. -/
def katakanaSigns : Thunk CharSet := .mk fun _ =>
  (Script.members "Kana").union <| .ofRanges
    [(0x3031, 0x3035), (0x309B, 0x309C), (0x30A0, 0x30A0), (0x30FC, 0x30FC), (0xFF70, 0xFF70)]

/-- Signs that are letters of a word, though not of an alphabet. -/
def signs : CharSet := .ofRanges
  [(0x2C2, 0x2C5), (0x2D2, 0x2D7), (0x2DE, 0x2DF), (0x2E5, 0x2EB), (0x2ED, 0x2ED), (0x2EF, 0x2FF),
   (0x55A, 0x55C), (0x55E, 0x55E), (0x58A, 0x58A), (0x5F3, 0x5F3), (0x70F, 0x70F),
   (0xA708, 0xA716), (0xA720, 0xA721), (0xA789, 0xA78A), (0xAB5B, 0xAB5B)]

/-- The scripts that do not part words by blanks. -/
def unspacedScripts : List String :=
  ["Thai", "Laoo", "Mymr", "Khmr", "Tale", "Talu", "Lana", "Tavt", "Ahom", "Hira"]

/-- The letters of Hebrew. -/
def hebrewLetters : Thunk CharSet := .mk fun _ =>
  (Script.members "Hebr").inter (Category.members ["Lo"])

/-- The characters of the class. -/
def members : WordClass → CharSet
  | cr => .range 13 13
  | lf => .range 10 10
  | newline => .ofPoints [0xB, 0xC, 0x85, 0x2028, 0x2029]
  | extend => marks.get
  | zwj => .range 0x200D 0x200D
  | format =>
    (Category.members ["Cf"]).diff <| .unions
      [.range 0x200B 0x200D, .ofGaps Property.prependedConcatenationMark, marks.get]
  | katakana => katakanaSigns.get
  | hebrewLetter => hebrewLetters.get
  | aLetter =>
    ((CharSet.ofGaps Property.alphabetic).diff <| .unions <|
      [.ofGaps Property.ideographic, katakanaSigns.get, hebrewLetters.get, marks.get]
        ++ unspacedScripts.map Script.members).union signs
  | singleQuote => .range 0x27 0x27
  | doubleQuote => .range 0x22 0x22
  | midNumLet => .ofPoints [0x2E, 0x2018, 0x2019, 0x2024, 0xFE52, 0xFF07, 0xFF0E]
  | midLetter => .ofPoints [0x3A, 0xB7, 0x387, 0x55F, 0x5F4, 0x2027, 0xFE13, 0xFE55, 0xFF1A]
  | midNum => .ofPoints
      [0x2C, 0x3B, 0x37E, 0x589, 0x60C, 0x60D, 0x66C, 0x7F8, 0x2044, 0xFE10, 0xFE14, 0xFE50,
       0xFE54, 0xFF0C, 0xFF1B]
  | numeric => .unions
      [Category.members ["Nd"], .range 0x66B 0x66B,
       (CharSet.ofGaps Property.prependedConcatenationMark).diff (.range 0x70F 0x70F)]
  | extendNumLet => (Category.members ["Pc"]).union (.range 0x202F 0x202F)
  | regionalIndicator => .ofGaps Property.regionalIndicator
  | wSegSpace => (Category.members ["Zs"]).diff (.ofPoints [0xA0, 0x2007, 0x202F])

end WordClass

end BringUp.Unicode
