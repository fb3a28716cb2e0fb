import BringUp.Text.Template
import Mathlib.Data.List.TakeWhile

/-!
# Reading a text in parts

A text with references in it may be read in two parts, if the second one starts with a dollar sign
and a name cannot have one. So it may be cut before each reference, whatever comes before: broken
references, too. What stands in braces there is a reference exactly if all its characters may stand
in a name.

* `templatePieces_append_spell`: a text is read by itself up to a reference.
* `templatePieces_spell`, `templatePieces_spell_plain`: what is read there.
* `firstReference?_spell`: the first reference of a text that starts with one.
-/

namespace BringUp.Text

variable {inName : Char → Bool}

/-- A name in braces is read as a reference to it. -/
theorem reference?_spell {name : List Char} (hne : name ≠ []) (hname : name.all inName = true)
    (hclose : inName '\x7d' = false) (rest : List Char) :
    reference? inName ((Piece.reference name).spell ++ rest) = some name := by
  obtain ⟨c, more, rfl⟩ := List.exists_cons_of_ne_nil hne
  have hall := List.all_eq_true.1 hname
  have htake : ((c :: more) ++ '\x7d' :: rest).takeWhile inName = c :: more := by
    rw [List.takeWhile_append_of_pos hall]
    simp [hclose]
  have hdrop : ((c :: more) ++ '\x7d' :: rest).dropWhile inName = '\x7d' :: rest := by
    rw [List.dropWhile_append_of_pos hall]
    simp [hclose]
  have hspell : (Piece.reference (c :: more)).spell ++ rest =
      '$' :: '\x7b' :: ((c :: more) ++ '\x7d' :: rest) := by simp [Piece.spell]
  simp only [hspell, reference?, htake, hdrop]

/-- A text that starts with a reference has that one first. -/
theorem firstReference?_spell {name : List Char} (hne : name ≠ [])
    (hname : name.all inName = true) (hclose : inName '\x7d' = false) (rest : List Char) :
    firstReference? inName ((Piece.reference name).spell ++ rest) = some name := by
  have hreference := reference?_spell hne hname hclose rest
  rw [Piece.spell, List.cons_append, List.cons_append] at hreference ⊢
  rw [firstReference?, hreference]
  rfl

/-- A character outside the names breaks the reference off. -/
theorem reference?_spell_eq_none {name : List Char} (hname : name.all inName = false)
    (hclose : '\x7d' ∉ name) (rest : List Char) :
    reference? inName ((Piece.reference name).spell ++ rest) = none := by
  have hdrop : name.dropWhile inName ≠ [] := by
    simpa [List.dropWhile_eq_nil_iff] using hname
  obtain ⟨d, tail, hd⟩ := List.exists_cons_of_ne_nil hdrop
  have hne : d ≠ '\x7d' := by
    rintro rfl
    exact hclose ((List.dropWhile_sublist inName).mem (hd ▸ List.mem_cons_self))
  have hwhole : (name ++ '\x7d' :: rest).dropWhile inName = d :: (tail ++ '\x7d' :: rest) := by
    rw [List.dropWhile_append, hd]
    simp
  have hspell : (Piece.reference name).spell ++ rest =
      '$' :: '\x7b' :: (name ++ '\x7d' :: rest) := by simp [Piece.spell]
  rw [hspell, reference?, hwhole]
  split
  · next heq => simp_all
  · rfl

/-- A reference starts with a dollar sign and an opening brace. -/
theorem reference?_eq_none {c d : Char} (h : ¬ (c = '$' ∧ d = '\x7b')) (rest : List Char) :
    reference? inName (c :: d :: rest) = none := by
  unfold reference?
  split
  · simp_all
  · rfl

/-- No reference goes beyond a dollar sign. -/
theorem reference?_append_dollar (hdollar : inName '$' = false) {l : List Char} (hl : l ≠ [])
    (rest : List Char) : reference? inName (l ++ '$' :: rest) = reference? inName l := by
  match l, hl with
  | [c], _ =>
    by_cases hc : c = '$'
    · subst hc
      simp [reference?]
    · simp [reference?, hc]
  | c :: d :: l, _ =>
    by_cases hopen : c = '$' ∧ d = '\x7b'
    · obtain ⟨rfl, rfl⟩ := hopen
      simp only [List.cons_append, reference?, List.dropWhile_append]
      cases hrest : l.dropWhile inName with
      | nil =>
        -- The name is broken off by the end of the first part, or else by the dollar sign.
        simp [hdollar]
      | cons e tail =>
        have hname : (l.takeWhile inName).length ≠ l.length := by
          have := congrArg List.length (List.takeWhile_append_dropWhile (p := inName) (l := l))
          simp only [hrest, List.length_append, List.length_cons] at this
          omega
        simp only [List.takeWhile_append, hname, if_false, List.isEmpty_cons, Bool.false_eq_true]
        cases l.takeWhile inName <;> by_cases he : e = '\x7d' <;> simp [he]
    · simp only [List.cons_append, reference?_eq_none hopen]

/-- The characters that are skipped do not count. -/
theorem piecesAfter_length (inName : Char → Bool) (l rest : List Char) :
    piecesAfter inName l.length (l ++ rest) = templatePieces inName rest := by
  induction l with
  | nil => rfl
  | cons c l ih => simpa [piecesAfter] using ih

/-- A text may be read in two parts, the second one from a dollar sign on. -/
theorem templatePieces_append_dollar (hdollar : inName '$' = false) (l rest : List Char) :
    templatePieces inName (l ++ '$' :: rest) =
      templatePieces inName l ++ templatePieces inName ('$' :: rest) := by
  suffices h : ∀ skip ≤ l.length, piecesAfter inName skip (l ++ '$' :: rest) =
      piecesAfter inName skip l ++ templatePieces inName ('$' :: rest) from h 0 (Nat.zero_le _)
  induction l with
  | nil =>
    intro skip hskip
    obtain rfl : skip = 0 := by simpa using hskip
    rfl
  | cons c l ih =>
    intro skip hskip
    cases skip with
    | succ skip => exact ih skip (by simpa using hskip)
    | zero =>
      have hsame := reference?_append_dollar hdollar (List.cons_ne_nil c l) rest
      rw [List.cons_append] at hsame ⊢
      simp only [piecesAfter, hsame]
      split
      · next name hname =>
        -- The reference lies inside the first part, so the rest of it is skipped there.
        have hlength := congrArg List.length (eq_append_of_reference? hname)
        simp only [Piece.spell, List.length_append, List.length_cons, List.length_nil] at hlength
        rw [ih _ (by omega), List.cons_append]
      · rw [ih 0 (Nat.zero_le _), List.cons_append]

/-- What stands before a reference is read by itself. -/
theorem templatePieces_append_spell (hdollar : inName '$' = false) (l name rest : List Char) :
    templatePieces inName (l ++ ((Piece.reference name).spell ++ rest)) =
      templatePieces inName l ++
        templatePieces inName ((Piece.reference name).spell ++ rest) := by
  simpa [Piece.spell] using
    templatePieces_append_dollar hdollar l ('\x7b' :: name ++ '\x7d' :: rest)

/-- Without a dollar sign there is no reference. -/
theorem templatePieces_append_plain {l : List Char} (hl : '$' ∉ l) (rest : List Char) :
    templatePieces inName (l ++ rest) = l.map .char ++ templatePieces inName rest := by
  induction l with
  | nil => rfl
  | cons c l ih =>
    simp only [List.mem_cons, not_or] at hl
    have hnone : reference? inName (c :: (l ++ rest)) = none := by
      unfold reference?
      split
      · simp_all
      · rfl
    simp only [List.cons_append, templatePieces, piecesAfter, hnone, List.map_cons]
    exact congrArg _ (ih hl.2)

/-- A name in braces after a dollar sign is one piece. -/
theorem templatePieces_spell {name : List Char} (hne : name ≠ []) (hname : name.all inName = true)
    (hclose : inName '\x7d' = false) (rest : List Char) :
    templatePieces inName ((Piece.reference name).spell ++ rest) =
      .reference name :: templatePieces inName rest := by
  have href := reference?_spell hne hname hclose rest
  have hspell : (Piece.reference name).spell ++ rest =
      '$' :: (('\x7b' :: name ++ ['\x7d']) ++ rest) := by simp [Piece.spell]
  rw [hspell] at href ⊢
  simp only [templatePieces, piecesAfter, href]
  have hskip := piecesAfter_length inName ('\x7b' :: name ++ ['\x7d']) rest
  simp only [List.length_append, List.length_cons, List.length_nil] at hskip
  exact congrArg _ hskip

/-- Anything else in braces after a dollar sign is read character by character. -/
theorem templatePieces_spell_plain {name : List Char} (hname : name.all inName = false)
    (hdollar : '$' ∉ name) (hclose : '\x7d' ∉ name) (rest : List Char) :
    templatePieces inName ((Piece.reference name).spell ++ rest) =
      (Piece.reference name).spell.map .char ++ templatePieces inName rest := by
  have href := reference?_spell_eq_none hname hclose rest
  have hspell : (Piece.reference name).spell = '$' :: ('\x7b' :: name ++ ['\x7d']) := rfl
  have hplain : '$' ∉ '\x7b' :: name ++ ['\x7d'] := by simpa using hdollar
  rw [hspell] at href ⊢
  simp only [List.cons_append] at href
  simp only [List.cons_append, templatePieces, piecesAfter, href, List.map_cons]
  exact congrArg _ (templatePieces_append_plain hplain rest)

end BringUp.Text
