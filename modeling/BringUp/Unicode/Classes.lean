import BringUp.Unicode.Category
import BringUp.Unicode.Property
import BringUp.Unicode.Recent

/-!
# Classes of characters

The classes that names, words, numbers and quoted texts are made of. Each decides the characters
below 128 by comparison and looks the others up in its table. Words and digits are those of the
sixteenth edition of the character standard; names and quoted texts know the recent characters
too.
-/

namespace BringUp.Unicode

/-- Letters and letter-like characters. -/
def alphabetic : CharSet := .ofGaps Property.alphabetic

/-- Letters and letter-like characters, the recent ones too. -/
def nameLetters : CharSet := alphabetic.union (.ofGaps Recent.alphabetic)

/-- Decimal digits of any script. -/
def digits : CharSet := Category.members ["Nd"]

/-- Numbers: decimal digits, letter numbers and the others, such as fractions, the recent ones
too. -/
def nameNumbers : CharSet := (Category.members ["Nd", "Nl", "No"]).union (.ofGaps Recent.numeric)

/-- White space. -/
def blanks : CharSet := .ofGaps Property.whiteSpace

/-- Word characters: letters, marks, decimal digits, connectors and joiners. -/
def wordCharacters : CharSet :=
  CharSet.ofRanges <| alphabetic.ranges ++ (Category.members ["Mn", "Mc", "Me", "Nd", "Pc"]).ranges
    ++ (CharSet.ofGaps Property.joinControl).ranges

/-- Characters that extend the one before them, such as accents. The two sound marks of half
width stand in a place of their own and do not count. -/
def graphemeExtenders : CharSet :=
  ((CharSet.ofGaps Property.graphemeExtend).union (.ofGaps Recent.graphemeExtend)).diff
    (.range 0xFF9E 0xFF9F)

/-- Characters without a form of their own on paper: controls, unassigned code points, blanks
other than the space, and the letters of Hangul that stand for a missing one. -/
def unprintable : CharSet :=
  ((Category.members ["Cc", "Cf", "Cs", "Co", "Cn", "Zl", "Zp", "Zs"]).diff
    (.ofGaps Recent.printable)).union (.ofPoints [0x115F, 0x1160, 0x3164, 0xFFA0])

/-- Whether `c` is a letter, of a name for instance. -/
def isAlphabetic (c : Char) : Bool :=
  if c.toNat < 128 then c.isAlpha else nameLetters.contains c

/-- Whether `c` is a letter or a number, of a name for instance. -/
def isAlphanumeric (c : Char) : Bool :=
  if c.toNat < 128 then c.isAlphanum else nameLetters.contains c || nameNumbers.contains c

/-- Whether `c` is a word character. -/
def isWord (c : Char) : Bool :=
  if c.toNat < 128 then c.isAlphanum || c == '_' else wordCharacters.contains c

/-- Whether `c` shows in print. -/
def isPrintable (c : Char) : Bool :=
  if c.toNat < 128 then 32 ≤ c.toNat && c.toNat < 127 else !unprintable.contains c

/-- Whether `c` extends the character before it. -/
def isGraphemeExtender (c : Char) : Bool :=
  if c.toNat < 128 then false else graphemeExtenders.contains c

end BringUp.Unicode
