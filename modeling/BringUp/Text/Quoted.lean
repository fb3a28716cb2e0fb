import BringUp.Unicode.Classes

/-!
# Quoted texts

A text in a message stands between double quotes. Characters that would not show, or that would
join the one before them, are written by their code point; a few have escapes of their own.
-/

namespace BringUp.Text.Quoted

/-- The hexadecimal digits of `n`, in small letters and without leading zeros. -/
def hexDigits (n : Nat) : List Char := Nat.toDigits 16 n

/-- How one character is written between the quotes. -/
def encodeChar (c : Char) : List Char :=
  match c with
  | '\x00' => ['\\', '0']
  | '\t' => ['\\', 't']
  | '\r' => ['\\', 'r']
  | '\n' => ['\\', 'n']
  | '"' => ['\\', '"']
  | '\\' => ['\\', '\\']
  | c =>
    if Unicode.isPrintable c && !Unicode.isGraphemeExtender c then [c]
    else ['\\', 'u', '\x7b'] ++ hexDigits c.toNat ++ ['\x7d']

/-- The characters between the quotes. -/
def encode (cs : List Char) : List Char := cs.flatMap encodeChar

/-- The text in double quotes. -/
def quote (s : String) : String := String.ofList ('"' :: encode s.toList ++ ['"'])

end BringUp.Text.Quoted
