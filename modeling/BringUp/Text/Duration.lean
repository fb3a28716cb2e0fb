/-!
# Lengths of time

Times are whole milliseconds. In words, a length of a second or more is given in seconds with as
many decimals as it needs, a shorter one in milliseconds, and no time at all in nanoseconds.
-/

namespace BringUp.Text

/-- The three decimals of a part of a second, without the zeros at their end. -/
def decimals (ms : Nat) : List Char :=
  let digits := [ms / 100 % 10, ms / 10 % 10, ms % 10]
  ((digits.reverse.dropWhile (· == 0)).reverse).map Nat.digitChar

/-- A length of time in words. -/
def duration (ms : Nat) : String :=
  if ms == 0 then "0ns"
  else if ms < 1000 then toString ms ++ "ms"
  else
    let fraction := decimals (ms % 1000)
    toString (ms / 1000) ++ (if fraction.isEmpty then "" else "." ++ String.ofList fraction) ++ "s"

end BringUp.Text
