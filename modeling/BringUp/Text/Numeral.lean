/-!
# Decimal numerals

Whole numbers in decimal digits, with an optional sign and a range that they have to fit. A text
is read from the left and the first fault counts, so digits that leave the range are reported even
if something else than a digit follows.
-/

namespace BringUp.Text

/-- Why a text is no numeral of the wanted range. -/
inductive NumeralError where
  /-- There is nothing to read. -/
  | empty
  /-- Something else than a digit, or a sign alone. -/
  | invalidDigit
  /-- The number lies above the range. -/
  | tooLarge
  /-- The number lies below the range. -/
  | tooSmall
  deriving Repr, DecidableEq

/-- The fault in words. -/
def NumeralError.message : NumeralError → String
  | .empty => "cannot parse integer from empty string"
  | .invalidDigit => "invalid digit found in string"
  | .tooLarge => "number too large to fit in target type"
  | .tooSmall => "number too small to fit in target type"

/-- Reads digits on top of the value `n`, up to the greatest value `limit`; `beyond` is the fault
of a greater one. -/
def readDigits (limit : Nat) (beyond : NumeralError) (n : Nat) :
    List Char → Except NumeralError Nat
  | [] => .ok n
  | c :: cs =>
    if c.isDigit then
      let m := n * 10 + (c.toNat - 48)
      if m ≤ limit then readDigits limit beyond m cs else .error beyond
    else .error .invalidDigit

/-- One digit or more. -/
def readUnsigned (limit : Nat) (beyond : NumeralError) : List Char → Except NumeralError Nat
  | [] => .error .invalidDigit
  | cs => readDigits limit beyond 0 cs

/-- Reads a number from 0 to `limit`, with an optional `+`. -/
def readNat (limit : Nat) : List Char → Except NumeralError Nat
  | [] => .error .empty
  | '+' :: cs => readUnsigned limit .tooLarge cs
  | cs => readUnsigned limit .tooLarge cs

/-- Reads a number from `-bound` to `bound - 1`, with an optional sign. -/
def readInt (bound : Nat) : List Char → Except NumeralError Int
  | [] => .error .empty
  | '-' :: cs => (readUnsigned bound .tooSmall cs).map fun n => -(n : Int)
  | '+' :: cs => (readUnsigned (bound - 1) .tooLarge cs).map Int.ofNat
  | cs => (readUnsigned (bound - 1) .tooLarge cs).map Int.ofNat

/-- The greatest number of 64 bits. -/
def maxWord64 : Nat := 0xFFFFFFFFFFFFFFFF

/-- The greatest number of 32 bits. -/
def maxWord32 : Nat := 0xFFFFFFFF

/-- The signed numbers of 64 bits go down to its negative and end right below it. -/
def signBound64 : Nat := 0x8000000000000000

end BringUp.Text
