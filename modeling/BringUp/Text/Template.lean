import BringUp.Unicode.Classes

/-!
# References in a text

A reference is a name in braces after a dollar sign. Which characters a name may have is up to the
one who reads it; a closing brace ends it. A text is read as a list of pieces, each a plain
character or a reference.

* `spell_pieces`: the pieces spell the text.
-/

namespace BringUp.Text

/-- The name of the reference with which a text starts, if it starts with one. -/
def reference? (inName : Char → Bool) : List Char → Option (List Char)
  | '$' :: '\x7b' :: cs =>
    match cs.takeWhile inName, cs.dropWhile inName with
    | c :: name, '\x7d' :: _ => some (c :: name)
    | _, _ => none
  | _ => none

/-- The name of the first reference in a text. -/
def firstReference? (inName : Char → Bool) : List Char → Option (List Char)
  | [] => none
  | c :: cs => (reference? inName (c :: cs)).or (firstReference? inName cs)

/-- A piece of a text. -/
inductive Piece where
  /-- A character that belongs to no reference. -/
  | char (c : Char)
  /-- A reference to a name. -/
  | reference (name : List Char)
  deriving Repr, DecidableEq

/-- The text of a piece. -/
def Piece.spell : Piece → List Char
  | .char c => [c]
  | .reference name => '$' :: '\x7b' :: name ++ ['\x7d']

/-- The pieces of a text without its first `skip` characters. -/
def piecesAfter (inName : Char → Bool) : Nat → List Char → List Piece
  | _, [] => []
  | skip + 1, _ :: cs => piecesAfter inName skip cs
  | 0, c :: cs =>
    match reference? inName (c :: cs) with
    | some name => .reference name :: piecesAfter inName (name.length + 2) cs
    | none => .char c :: piecesAfter inName 0 cs

/-- The pieces of a text: a reference wherever one starts outside another. -/
def templatePieces (inName : Char → Bool) (cs : List Char) : List Piece := piecesAfter inName 0 cs

/-- A text that starts with a reference starts with its spelling. -/
theorem eq_append_of_reference? {inName : Char → Bool} {cs name : List Char}
    (h : reference? inName cs = some name) :
    cs = (Piece.reference name).spell ++ cs.drop (name.length + 3) := by
  unfold reference? at h
  split at h
  · next rest =>
    split at h
    · next c name' tail hname htail =>
      cases h
      have hcs := List.takeWhile_append_dropWhile (p := inName) (l := rest)
      rw [hname, htail] at hcs
      rw [← hcs]
      simp [Piece.spell]
    · simp at h
  · simp at h

/-- The pieces spell the text. -/
theorem spell_pieces (inName : Char → Bool) (cs : List Char) :
    (templatePieces inName cs).flatMap Piece.spell = cs := by
  suffices h : ∀ skip, (piecesAfter inName skip cs).flatMap Piece.spell = cs.drop skip from h 0
  induction cs with
  | nil => simp [piecesAfter]
  | cons c cs ih =>
    intro skip
    cases skip with
    | succ skip => simpa [piecesAfter] using ih skip
    | zero =>
      simp only [piecesAfter]
      split
      · next name hname =>
        have := eq_append_of_reference? hname
        simp only [List.flatMap_cons, ih, List.drop_zero]
        simpa using this.symm
      · simpa [Piece.spell] using ih 0

end BringUp.Text
