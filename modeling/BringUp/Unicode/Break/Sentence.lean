import BringUp.Unicode.Category
import BringUp.Unicode.Property

/-!
# Sentences of a text

Where a sentence ends is told from the classes of the characters around that place: the marks that
end one, the quotes and brackets that may follow, and whether the letter after them is small. No
character has two of the classes here.
-/

namespace BringUp.Unicode

/-- The part that a character plays in a sentence. -/
inductive SentenceClass where
  /-- The carriage return. -/
  | cr
  /-- The line feed. -/
  | lf
  /-- Other ends of a paragraph. -/
  | sep
  /-- Marks; they belong to what is before them. -/
  | extend
  /-- Format characters; they belong to what is before them. -/
  | format
  /-- Blanks. -/
  | sp
  /-- Small letters. -/
  | lower
  /-- Capital letters. -/
  | upper
  /-- Letters without case. -/
  | oLetter
  /-- Digits, and the signs that go with a number. -/
  | numeric
  /-- Full stops, which may end an abbreviation too. -/
  | aTerm
  /-- A sentence goes on after them. -/
  | sContinue
  /-- Other marks that end a sentence. -/
  | sTerm
  /-- Quotes and brackets. -/
  | close
  deriving Repr, DecidableEq

namespace SentenceClass

/-- The class of that name, in small letters without blanks, hyphens or underscores. -/
def ofName? : String → Option SentenceClass
  | "cr" => some cr
  | "lf" => some lf
  | "se" | "sep" => some sep
  | "ex" | "extend" => some extend
  | "fo" | "format" => some format
  | "sp" => some sp
  | "lo" | "lower" => some lower
  | "up" | "upper" => some upper
  | "le" | "oletter" => some oLetter
  | "nu" | "numeric" => some numeric
  | "at" | "aterm" => some aTerm
  | "sc" | "scontinue" => some sContinue
  | "st" | "sterm" => some sTerm
  | "cl" | "close" => some close
  | _ => none

/-- The marks that belong to what is before them. -/
def marks : Thunk CharSet := .mk fun _ => .unions
  [.ofGaps Property.graphemeExtend, Category.members ["Mc"], .range 0x200D 0x200D]

/-- Small letters. Those of Georgian start sentences too, so they have no case here. -/
def smallLetters : Thunk CharSet := .mk fun _ =>
  (CharSet.ofGaps Property.lowercase).diff <| .unions
    [.ofGaps Property.graphemeExtend, .range 0x10D0 0x10FA, .range 0x10FD 0x10FF]

/-- Capital letters, those of Georgian apart. -/
def capitalLetters : Thunk CharSet := .mk fun _ =>
  ((CharSet.ofGaps Property.uppercase).union (Category.members ["Lt"])).diff <|
    (CharSet.range 0x1C90 0x1CBA).union (.range 0x1CBD 0x1CBF)

/-- Full stops. -/
def stops : CharSet := .ofPoints [0x2E, 0x2024, 0xFE52, 0xFF0E]

/-- The characters of the class. -/
def members : SentenceClass → CharSet
  | cr => .range 13 13
  | lf => .range 10 10
  | sep => .ofPoints [0x85, 0x2028, 0x2029]
  | extend => marks.get
  | format =>
    (Category.members ["Cf"]).diff <| .unions
      [.range 0x200C 0x200D, marks.get,
       (CharSet.ofGaps Property.prependedConcatenationMark).diff (.range 0x70F 0x70F)]
  | sp => (CharSet.ofGaps Property.whiteSpace).diff (.ofPoints [10, 13, 0x85, 0x2028, 0x2029])
  | lower => smallLetters.get
  | upper => capitalLetters.get
  | oLetter =>
    ((CharSet.ofGaps Property.alphabetic).union (.range 0x5F3 0x5F3)).diff <| .unions
      [smallLetters.get, capitalLetters.get, marks.get]
  | numeric => .unions
      [Category.members ["Nd"], .range 0x66B 0x66C,
       (CharSet.ofGaps Property.prependedConcatenationMark).diff (.range 0x70F 0x70F)]
  | aTerm => stops
  | sContinue => .ofPoints
      [0x2C, 0x2D, 0x3A, 0x3B, 0x37E, 0x55D, 0x60C, 0x60D, 0x7F8, 0x1802, 0x1808, 0x2013, 0x2014,
       0x3001, 0xFE10, 0xFE11, 0xFE13, 0xFE14, 0xFE31, 0xFE32, 0xFE50, 0xFE51, 0xFE54, 0xFE55,
       0xFE58, 0xFE63, 0xFF0C, 0xFF0D, 0xFF1A, 0xFF1B, 0xFF64]
  | sTerm => (CharSet.ofGaps Property.sentenceTerminal).diff stops
  | close =>
    (Category.members ["Ps", "Pe", "Pi", "Pf"]).union <| .ofRanges
      [(0x22, 0x22), (0x27, 0x27), (0x275B, 0x2760), (0x2E00, 0x2E01), (0x2E06, 0x2E08),
       (0x2E0B, 0x2E0B), (0x1F676, 0x1F678)]

end SentenceClass

end BringUp.Unicode
