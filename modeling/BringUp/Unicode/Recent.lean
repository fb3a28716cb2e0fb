import BringUp.Unicode.CharSet

/-!
# Recent characters

The other tables of characters follow the sixteenth edition of the character standard. Here stand
the characters that the seventeenth adds, by the classes that names and quoted texts are made of.
The older characters have the same classes in both.
-/

namespace BringUp.Unicode.Recent

/-- Gaps of the recent characters that show in print, which are all of them. -/
def printable : String :=
  "2191 1 972 1 127 1 3570 15 2 12 1493 1 2772 1 31799 2 2 1 1 1 28 1 21457 16 445 2 54 7 2929 26
  1387 3 8 9 33 2 3172 8 584 44 4 10 20662 25 2 25 286 5 6145 8 1289 22 97 115 16135 3 445 23 15
  17 6095 31 1 22 8 2 4056 1 158 4 341 9 379 4 50 1 3 1 57 1 4 1 28 1 4 1 266 1 47935 6 5986 12
  21762 4298"

/-- Gaps of the recent characters that are letters or like letters. -/
def alphabetic : String :=
  "2191 1 972 1 127 1 39665 2 2 1 1 1 28 1 24910 26 1387 3 50 2 3172 8 584 44 20676 25 2 25 286 5
  6145 8 1289 22 97 115 22733 31 1 22 8 2 53306 6 5986 12 21762 4298"

/-- Gaps of the recent characters that are numbers. -/
def numeric : String :=
  "73184 10 21002 3"

/-- Gaps of the recent characters that extend the one before them. -/
def graphemeExtend : String :=
  "6863 15 2 12 62478 2 3172 1 1 3 1 1 52092 1 2 1 7 2 5 1"

end BringUp.Unicode.Recent
