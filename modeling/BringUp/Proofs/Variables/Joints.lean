import BringUp.Proofs.Text.Cutting
import BringUp.Proofs.Variables.Substitution

/-!
# Where values meet the text around them

When the references in a text are replaced, the end of what stands before a value meets the start of
the value. So two characters can become neighbours that are none in the text and in the values. If
they are neighbours in no value, and the second one does not stand in the text, they become
neighbours only where a value starts with the second one.

* `Variables.exists_joint`: where neighbours meet in what pieces become.
* `Variables.joint_of_neighbours`: where they meet in a text.
-/

namespace BringUp

namespace Variables

open Text (Piece)

variable {a b : Char} {v : Variables} {text : String} {front rest : List Char}

/-- Neighbours in what pieces become meet at the start of a value, unless they are neighbours in a
value or the second one is a piece. -/
theorem exists_joint {pieces : List Piece} (hpieces : .char b ∉ pieces)
    (hvalues : ∀ name, ¬ [a, b] <:+: (v.valueOf name).toList)
    (h : pieces.flatMap v.expand = front ++ [a] ++ b :: rest) :
    ∃ before name after, pieces = before ++ .reference name :: after ∧
      before.flatMap v.expand = front ++ [a] ∧
        (v.valueOf (String.ofList name)).toList.head? = some b := by
  -- The last piece is taken off until the neighbours meet at its start.
  induction pieces using List.reverseRecOn generalizing rest with
  | nil => simp at h
  | append_singleton pieces piece ih =>
    simp only [List.mem_append, List.mem_singleton, not_or] at hpieces
    obtain ⟨hfront, hlast⟩ := hpieces
    have hmeet (hbefore : pieces.flatMap v.expand = front ++ [a])
        (hpiece : v.expand piece = b :: rest) :
        ∃ before name after, pieces ++ [piece] = before ++ .reference name :: after ∧
          before.flatMap v.expand = front ++ [a] ∧
            (v.valueOf (String.ofList name)).toList.head? = some b := by
      cases piece with
      | char c =>
        obtain rfl : c = b := (List.cons.inj hpiece).1
        exact absurd rfl hlast
      | reference name => exact ⟨pieces, name, [], rfl, hbefore, congrArg List.head? hpiece⟩
    rw [List.flatMap_append, List.flatMap_singleton, List.append_eq_append_iff] at h
    rcases h with ⟨middle, hbefore, hpiece⟩ | ⟨middle, hbefore, hpiece⟩
    · rcases List.eq_nil_or_concat middle with rfl | ⟨middle, c, rfl⟩
      · exact hmeet (by rw [hbefore, List.append_nil]) hpiece
      · -- Both neighbours stand in the last piece.
        have hconcat : front ++ [a] = pieces.flatMap v.expand ++ middle ++ [c] := by
          simpa using hbefore
        obtain rfl : a = c := by simpa using (List.append_inj' hconcat rfl).2
        have hinside : [a, b] <:+: v.expand piece := ⟨middle, rest, by simp [hpiece]⟩
        cases piece with
        | char c => simpa [expand] using hinside.length_le
        | reference name => exact absurd hinside (hvalues _)
    · cases middle with
      | nil => exact hmeet (by rw [hbefore, List.append_nil]) hpiece.symm
      | cons c middle =>
        obtain ⟨rfl, -⟩ := List.cons.inj hpiece
        obtain ⟨before, name, after, rfl, ha, hb⟩ := ih hfront hbefore
        exact ⟨before, name, after ++ [piece], by simp, ha, hb⟩

/-- Between two neighbours a value starts, unless they are neighbours in a value or the second one
stands in the text. -/
theorem joint_of_neighbours (htext : b ∉ text.toList)
    (hvalues : ∀ name, ¬ [a, b] <:+: (v.valueOf name).toList)
    (h : front ++ [a, b] <+: (v.substitute text).toList) :
    ∃ left name right, IsWord name ∧ text = left ++ reference name ++ right ∧
      (v.substitute left).toList = front ++ [a] ∧
        (v.valueOf name).toList.head? = some b := by
  obtain ⟨rest, hrest⟩ := h
  rw [substitute, String.toList_ofList] at hrest
  have hpieces : .char b ∉ Text.templatePieces Unicode.isWord text.toList := by
    intro hmem
    refine htext ?_
    rw [← Text.spell_pieces Unicode.isWord text.toList]
    exact List.mem_flatMap_of_mem hmem (List.mem_singleton_self b)
  have hmeet : (Text.templatePieces Unicode.isWord text.toList).flatMap v.expand =
      front ++ [a] ++ b :: rest := by
    rw [← hrest]
    simp
  obtain ⟨before, name, after, heq, ha, hb⟩ := exists_joint hpieces hvalues hmeet
  obtain ⟨hname, left, right, hsplit, rfl⟩ := Text.exists_around unmarked_isWord heq
  refine ⟨String.ofList left, String.ofList name, String.ofList right, ?_, ?_, ?_, hb⟩
  · rwa [IsWord, String.toList_ofList]
  · apply String.toList_injective
    simp [reference, hsplit]
  · simpa [substitute] using ha

end Variables

end BringUp
