import BringUp.Unicode.Category
import BringUp.Unicode.Property
import BringUp.Unicode.Script

/-!
# Clusters

What a reader takes for one character may be written with several: a letter with its marks, a
syllable of Hangul, a line end of two characters. The classes here tell which characters join their
neighbours. No character has two of them, and most have none.
-/

namespace BringUp.Unicode

/-- The part that a character plays in a cluster. -/
inductive ClusterClass where
  /-- The carriage return. -/
  | cr
  /-- The line feed. -/
  | lf
  /-- Other controls; they stand alone. -/
  | control
  /-- Joins what is before it. -/
  | extend
  /-- Joins two pictures into one. -/
  | zwj
  /-- One half of a flag. -/
  | regionalIndicator
  /-- Joins what is after it. -/
  | prepend
  /-- A mark with a width of its own; joins what is before it. -/
  | spacingMark
  /-- The start of a syllable of Hangul. -/
  | l
  /-- The vowel of a syllable of Hangul, or one that is written like it. -/
  | v
  /-- The end of a syllable of Hangul. -/
  | t
  /-- A whole syllable of Hangul without an end. -/
  | lv
  /-- A whole syllable of Hangul with an end. -/
  | lvt
  deriving Repr, DecidableEq

namespace ClusterClass

/-- The class of that name, in small letters without blanks, hyphens or underscores. -/
def ofName? : String → Option ClusterClass
  | "cr" => some cr
  | "lf" => some lf
  | "cn" | "control" => some control
  | "ex" | "extend" => some extend
  | "zwj" => some zwj
  | "ri" | "regionalindicator" => some regionalIndicator
  | "pp" | "prepend" => some prepend
  | "sm" | "spacingmark" => some spacingMark
  | "l" => some l
  | "v" => some v
  | "t" => some t
  | "lv" => some lv
  | "lvt" => some lvt
  | _ => none

/-- Characters that extend the one before them. -/
def extenders : Thunk CharSet := .mk fun _ =>
  (CharSet.ofGaps Property.graphemeExtend).union (.ofGaps Property.emojiModifier)

/-- The syllables of Hangul stand in one run, in which every 28th has no end. -/
def openSyllables : Thunk CharSet := .mk fun _ =>
  .ofPoints ((List.range 399).map fun i => 0xAC00 + 28 * i)

/-- The vowels that end a cluster or a syllable. -/
def vowels : Thunk CharSet := .mk fun _ =>
  .ofRanges [(0x1160, 0x11A7), (0xD7B0, 0xD7C6), (0x16D63, 0x16D63), (0x16D67, 0x16D6A)]

/-- The characters of the class. -/
def members : ClusterClass → CharSet
  | cr => .range 13 13
  | lf => .range 10 10
  | control =>
    let unassigned := (Category.members ["Cn"]).inter (.ofGaps Property.defaultIgnorableCodePoint)
    ((Category.members ["Cc", "Cf", "Zl", "Zp"]).union unassigned).diff <| .unions
      [.ofPoints [10, 13, 0x200D], .ofGaps Property.prependedConcatenationMark, extenders.get]
  | extend => extenders.get
  | zwj => .range 0x200D 0x200D
  | regionalIndicator => .ofGaps Property.regionalIndicator
  | prepend => .unions
      [.ofGaps Property.prependedConcatenationMark,
       .ofRanges [(0xD4E, 0xD4E), (0x111C2, 0x111C3), (0x113D1, 0x113D1), (0x1193F, 0x1193F),
         (0x11941, 0x11941), (0x11A3A, 0x11A3A), (0x11A84, 0x11A89), (0x11D46, 0x11D46),
         (0x11F02, 0x11F02)]]
  | spacingMark =>
    ((Category.members ["Mc"]).union (.ofPoints [0xE33, 0xEB3])).diff <| .unions
      [extenders.get,
       .ofRanges [(0x102B, 0x102C), (0x1038, 0x1038), (0x1062, 0x1064), (0x1067, 0x106D),
         (0x1083, 0x1083), (0x1087, 0x108C), (0x108F, 0x108F), (0x109A, 0x109C),
         (0x1A61, 0x1A61), (0x1A63, 0x1A64), (0xAA7B, 0xAA7B), (0xAA7D, 0xAA7D),
         (0x11720, 0x11721)]]
  | l => .ofRanges [(0x1100, 0x115F), (0xA960, 0xA97C)]
  | v => vowels.get
  | t => .ofRanges [(0x11A8, 0x11FF), (0xD7CB, 0xD7FB)]
  | lv => openSyllables.get
  | lvt => (CharSet.range 0xAC00 0xD7A3).diff openSyllables.get

end ClusterClass

end BringUp.Unicode
