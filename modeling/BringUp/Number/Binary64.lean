/-!
# Floating-point numbers of 64 bits

A decimal numeral stands for the nearest number with a 53-bit significand, ties going to the even
one. Numbers are kept by an *order key*: the bit pattern of the magnitude, negative below zero.
Keys are ordered as the numbers are, both zeros have the key 0, and the key of infinity is the
greatest. A NaN has no key and is below and above nothing.
-/

namespace BringUp

/-- A number of 64 bits up to the sign of zero, or no number at all. -/
inductive Binary64 where
  /-- Not a number. -/
  | nan
  /-- The number with that order key. -/
  | number (key : Int)
  deriving Repr, DecidableEq

namespace Binary64

/-- The key of positive infinity. -/
def infinityKey : Nat := 0x7FF * Nat.pow 2 52

/-- `n / d` rounded to a whole number, a half to the even neighbour. -/
def roundQuotient (n d : Nat) : Nat :=
  let q := n / d
  let r := 2 * (n % d)
  if r < d then q else if r > d then q + 1 else q + q % 2

/-- The key of the number nearest to `n / d`. The unit is the least positive number, `2 ^ -1074`;
beyond 53 bits the significand is cut to 53 and the rest of the key counts the bits cut. -/
def keyOfRatio (n d : Nat) : Nat :=
  let scaled := n * Nat.pow 2 1074
  let cut := (scaled / d).log2 - 52
  min infinityKey (cut * Nat.pow 2 52 + roundQuotient scaled (d * Nat.pow 2 cut))

/-- The key of `digits * 10 ^ exponent`, where `digits` has `count` digits or fewer. Exponents far
outside the range are settled by size alone. -/
def keyOfDecimal (digits count : Nat) (exponent : Int) : Nat :=
  if digits = 0 then 0
  else if exponent + count < -400 then 0
  else if exponent > 400 then infinityKey
  else if exponent < 0 then keyOfRatio digits (Nat.pow 10 exponent.natAbs)
  else keyOfRatio (digits * Nat.pow 10 exponent.toNat) 1

/-- The value of decimal digits. -/
def digitsValue (ds : List Char) : Nat := ds.foldl (fun n c => n * 10 + (c.toNat - 48)) 0

/-- Reads the exponent after its `e`: an optional sign and one digit or more, up to the end. -/
def readExponent? (cs : List Char) : Option Int :=
  let (negative, ds) := match cs with
    | '-' :: ds => (true, ds)
    | '+' :: ds => (false, ds)
    | ds => (false, ds)
  if ds.isEmpty || !ds.all Char.isDigit then none
  else some (if negative then -(digitsValue ds : Int) else digitsValue ds)

/-- Reads a numeral without a sign: digits with an optional point among or around them, and an
optional exponent. -/
def readMagnitude? (cs : List Char) : Option Nat := do
  let whole := cs.takeWhile Char.isDigit
  let rest := cs.dropWhile Char.isDigit
  let (fraction, rest) := match rest with
    | '.' :: more => (more.takeWhile Char.isDigit, more.dropWhile Char.isDigit)
    | rest => ([], rest)
  let digits := whole ++ fraction
  if digits.isEmpty then none
  let exponent ← match rest with
    | [] => some 0
    | e :: more => if e == 'e' || e == 'E' then readExponent? more else none
  some (keyOfDecimal (digitsValue digits) digits.length (exponent - fraction.length))

/-- Reads what may follow the sign: a numeral, or the name of infinity or of NaN in any case. -/
def readUnsigned? (cs : List Char) : Option Binary64 :=
  let name := String.ofList (cs.map Char.toLower)
  if name == "nan" then some .nan
  else if name == "inf" || name == "infinity" then some (.number infinityKey)
  else (readMagnitude? cs).map fun key => .number key

/-- The number with the other sign. -/
def neg : Binary64 → Binary64
  | .nan => .nan
  | .number key => .number (-key)

/-- Reads a number with an optional sign. -/
def read? (s : String) : Option Binary64 :=
  match s.toList with
  | '-' :: cs => (readUnsigned? cs).map neg
  | '+' :: cs => readUnsigned? cs
  | cs => readUnsigned? cs

/-- Whether `a` is below `b`. -/
def lt : Binary64 → Binary64 → Bool
  | .number a, .number b => a < b
  | _, _ => false

end Binary64

end BringUp
