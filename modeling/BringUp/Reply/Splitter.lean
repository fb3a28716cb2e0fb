import BringUp.Text.Split

/-!
# Lines from chunks

A splitter takes a text in chunks and gives the lines that each chunk completes. A line ends with
a carriage return and a line feed, wherever the chunks are cut; either of them alone is text.

* `cutLines_spell`: the lines, each with its end, and the rest spell the text.
-/

namespace BringUp.Reply

/-- The complete lines of a text, and the rest that no line end follows. -/
def cutLines : List Char → List (List Char) × List Char
  | [] => ([], [])
  | '\r' :: '\n' :: cs => ([] :: (cutLines cs).1, (cutLines cs).2)
  | c :: cs =>
    match cutLines cs with
    | ([], rest) => ([], c :: rest)
    | (line :: lines, rest) => ((c :: line) :: lines, rest)

/-- The text of complete lines and a rest. -/
def spell (lines : List (List Char)) (rest : List Char) : List Char :=
  lines.flatMap (· ++ ['\r', '\n']) ++ rest

/-- The lines, each with its end, and the rest spell the text. -/
theorem cutLines_spell (cs : List Char) : spell (cutLines cs).1 (cutLines cs).2 = cs := by
  fun_induction cutLines cs with
  | case1 => rfl
  | case2 cs ih => simpa [spell] using ih
  | case3 c cs _ rest h ih => simpa [spell, h] using ih
  | case4 c cs _ line lines rest h ih => simpa [spell, h] using ih

/-- The part of a text that no line end follows yet. -/
structure Splitter where
  /-- The unfinished line. -/
  pending : String := ""
  deriving Repr, DecidableEq, Inhabited

/-- Adds a chunk: the lines that it completes, and the splitter after it. -/
def Splitter.push (chunk : String) (s : Splitter) : List String × Splitter :=
  let cut := cutLines (s.pending.toList ++ chunk.toList)
  (cut.1.map String.ofList, { pending := String.ofList cut.2 })

end BringUp.Reply
