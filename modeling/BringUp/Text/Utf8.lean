/-!
# UTF-8

Decoding is a small state machine over octets. A sequence that breaks off, at an octet that cannot
continue it or at the end, counts as one malformed character however many octets it had, and the
octet that broke it starts anew. So the octets up to a break are the longest ones that could still
have become a character.

* `decode` puts the replacement character for each malformed one.
* `decode?` refuses octets with a malformed character.
-/

namespace BringUp.Text.Utf8

/-- Between two octets. -/
inductive State where
  /-- No character is under way. -/
  | idle
  /-- A character is under way: the bits so far, how many octets are still to come, and the
  bounds of the next one. -/
  | partway (bits more lo hi : Nat)
  deriving Repr, DecidableEq

/-- A decoded character, or `none` for a malformed one. -/
abbrev Decoded := Option Char

/-- Reads the first octet of a character. -/
def first (b : Nat) : List Decoded × State :=
  if b < 0x80 then ([some (Char.ofNat b)], .idle)
  else if b < 0xC2 then ([none], .idle)
  else if b < 0xE0 then ([], .partway (b - 0xC0) 1 0x80 0xBF)
  else if b < 0xF0 then
    ([], .partway (b - 0xE0) 2 (if b = 0xE0 then 0xA0 else 0x80) (if b = 0xED then 0x9F else 0xBF))
  else if b < 0xF5 then
    ([], .partway (b - 0xF0) 3 (if b = 0xF0 then 0x90 else 0x80) (if b = 0xF4 then 0x8F else 0xBF))
  else ([none], .idle)

/-- Reads one octet: the characters it completes and the state after it. -/
def step : State → Nat → List Decoded × State
  | .idle, b => first b
  | .partway bits more lo hi, b =>
    if lo ≤ b && b ≤ hi then
      let bits := bits * 64 + (b - 0x80)
      if more ≤ 1 then ([some (Char.ofNat bits)], .idle)
      else ([], .partway bits (more - 1) 0x80 0xBF)
    else
      let (out, next) := first b
      (none :: out, next)

/-- A character that is still under way at the end is malformed. -/
def finish : State → List Decoded
  | .idle => []
  | .partway .. => [none]

/-- Reads octets from a state on. -/
def run : State → List UInt8 → List Decoded
  | s, [] => finish s
  | s, b :: bs =>
    let (out, next) := step s b.toNat
    out ++ run next bs

/-- The characters of the octets, with U+FFFD for each malformed one. -/
def decode (bytes : List UInt8) : List Char :=
  (run .idle bytes).map fun d => d.getD '\uFFFD'

/-- The characters of well-formed octets. -/
def decode? (bytes : List UInt8) : Option (List Char) := (run .idle bytes).mapM id

/-- The octets of a text. -/
def encode (s : String) : List UInt8 := s.toUTF8.toList

/-- The text of the octets, with U+FFFD for each malformed character. -/
def text (bytes : List UInt8) : String := String.ofList (decode bytes)

end BringUp.Text.Utf8
