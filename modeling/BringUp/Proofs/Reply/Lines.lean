import BringUp.Reply.Splitter

/-!
# Cutting a text that arrives in parts

A text can be cut into lines part by part, when the rest of each part is put before the next one.

* `cutLines_append`: the lines of a text are those of its first part, and those of the rest of the
  first part with the second one.
* `cutLines_rest`: a rest holds no line.
* `cutLines_lineEnd`: a line end completes a rest, whatever the rest ends with.
* `not_lineEnd_infix_of_mem`, `not_lineEnd_infix_rest`: no line has a line end in it, and no rest.
* `cutLines_spell_of_free`: a text is cut into any lines and rest without line ends that spell it.
-/

namespace BringUp.Reply

/-- A text without a line is its own rest. -/
theorem rest_eq_of_no_line {cs : List Char} (h : (cutLines cs).1 = []) : (cutLines cs).2 = cs := by
  have hspell := cutLines_spell cs
  rwa [h, spell, List.flatMap_nil, List.nil_append] at hspell

/-- The first line of a text that starts with a plain character starts with it too. -/
theorem cutLines_cons {c : Char} {cs : List Char}
    (hplain : ∀ rest, c = '\r' → cs = '\n' :: rest → False) :
    cutLines (c :: cs) =
      match cutLines cs with
      | ([], rest) => ([], c :: rest)
      | (line :: lines, rest) => ((c :: line) :: lines, rest) :=
  cutLines.eq_3 c cs hplain

/-- The lines of a text are those of its first part, and those of the rest of the first part with
the second one. -/
theorem cutLines_append (as bs : List Char) :
    cutLines (as ++ bs) =
      ((cutLines as).1 ++ (cutLines ((cutLines as).2 ++ bs)).1,
        (cutLines ((cutLines as).2 ++ bs)).2) := by
  fun_induction cutLines as with
  | case1 => rfl
  | case2 cs ih => simp only [List.cons_append, cutLines, ih]
  | case3 c cs hplain rest h ih =>
    -- No line ends in `cs`, so nothing of it is lost.
    have hrest : rest = cs :=
      (congrArg Prod.snd h).symm.trans (rest_eq_of_no_line (congrArg Prod.fst h))
    rw [hrest, List.nil_append]
  | case4 c cs hplain line lines rest h ih =>
    have hcs : cs ≠ [] := by
      rintro rfl
      simp [cutLines] at h
    have hplain' : ∀ after, c = '\r' → cs ++ bs = '\n' :: after → False := by
      intro after hc hafter
      obtain ⟨d, ds, rfl⟩ := List.exists_cons_of_ne_nil hcs
      rw [List.cons_append, List.cons.injEq] at hafter
      exact hplain ds hc (by rw [hafter.1])
    rw [List.cons_append, cutLines_cons hplain', ih, h]
    rfl

/-- A rest holds no line. -/
theorem cutLines_rest (cs : List Char) : cutLines (cutLines cs).2 = ([], (cutLines cs).2) := by
  have hself := cutLines_append cs []
  rw [List.append_nil, List.append_nil, Prod.ext_iff] at hself
  have hnone : (cutLines (cutLines cs).2).1 = [] := List.self_eq_append_right.1 hself.1
  exact Prod.ext hnone hself.2.symm

/-- A line end completes a rest, whatever the rest ends with. -/
theorem cutLines_lineEnd (cs : List Char) :
    cutLines ((cutLines cs).2 ++ ['\r', '\n']) = ([(cutLines cs).2], []) := by
  generalize hrest : (cutLines cs).2 = rest
  have hnone : (cutLines rest).1 = [] := by rw [← hrest, cutLines_rest]
  clear hrest
  fun_induction cutLines rest with
  | case1 => rfl
  | case2 cs ih => simp at hnone
  | case3 c cs hplain rest h ih =>
    have hplain' : ∀ after, c = '\r' → cs ++ ['\r', '\n'] = '\n' :: after → False := by
      intro after hc hafter
      cases cs with
      | nil => simp at hafter
      | cons d ds =>
        rw [List.cons_append, List.cons.injEq] at hafter
        exact hplain ds hc (by rw [hafter.1])
    rw [List.cons_append, cutLines_cons hplain', ih (by rw [h])]
  | case4 c cs hplain line lines rest h ih => simp at hnone

/-- No line has a line end in it. -/
theorem not_lineEnd_infix_of_mem {cs : List Char} :
    ∀ line ∈ (cutLines cs).1, ¬ ['\r', '\n'] <:+: line := by
  fun_induction cutLines cs with
  | case1 => simp
  | case2 cs ih => exact List.forall_mem_cons.2 ⟨by simp, ih⟩
  | case3 c cs hplain rest h ih => simp
  | case4 c cs hplain line lines rest h ih =>
    rw [h] at ih
    obtain ⟨hline, hlines⟩ := List.forall_mem_cons.1 ih
    refine List.forall_mem_cons.2 ⟨fun hstands => ?_, hlines⟩
    rcases List.infix_cons_iff.1 hstands with hfront | hrest
    · -- The line feed would stand in the text right behind the carriage return.
      obtain ⟨more, hmore⟩ := hfront
      obtain ⟨rfl, rfl⟩ : '\r' = c ∧ '\n' :: more = line := by simpa using hmore
      have hspell := cutLines_spell cs
      rw [h, spell, List.flatMap_cons, List.cons_append, List.cons_append] at hspell
      exact hplain _ rfl hspell.symm
    · exact hline hrest

/-- A text without a line has no line end in it. -/
theorem not_lineEnd_infix_of_no_line {cs : List Char} (h : (cutLines cs).1 = []) :
    ¬ ['\r', '\n'] <:+: cs := by
  rintro ⟨before, after, rfl⟩
  rw [cutLines_append, cutLines_append, cutLines_lineEnd] at h
  simp at h

/-- No rest has a line end in it. -/
theorem not_lineEnd_infix_rest (cs : List Char) : ¬ ['\r', '\n'] <:+: (cutLines cs).2 :=
  not_lineEnd_infix_of_no_line (by rw [cutLines_rest])

/-- A text without a line end in it has no line. -/
theorem cutLines_eq_self {cs : List Char} (h : ¬ ['\r', '\n'] <:+: cs) :
    cutLines cs = ([], cs) := by
  cases hlines : (cutLines cs).1 with
  | nil => exact Prod.ext hlines (rest_eq_of_no_line hlines)
  | cons line lines =>
    -- The end of the first line would stand in the text.
    have hspell := cutLines_spell cs
    rw [hlines, spell, List.flatMap_cons, List.append_assoc] at hspell
    exact absurd ⟨line, _, hspell⟩ h

/-- A text is cut into any lines and rest without line ends that spell it. The end of a line cannot
be taken for an earlier one, even if the line ends with a carriage return. -/
theorem cutLines_spell_of_free {lines : List (List Char)} {rest : List Char}
    (hlines : ∀ line ∈ lines, ¬ ['\r', '\n'] <:+: line) (hrest : ¬ ['\r', '\n'] <:+: rest) :
    cutLines (spell lines rest) = (lines, rest) := by
  induction lines with
  | nil => exact cutLines_eq_self hrest
  | cons line lines ih =>
    obtain ⟨hline, hmore⟩ := List.forall_mem_cons.1 hlines
    have hfirst : cutLines (line ++ ['\r', '\n']) = ([line], []) := by
      have hend := cutLines_lineEnd line
      rwa [cutLines_eq_self hline] at hend
    have hspell : spell (line :: lines) rest = line ++ ['\r', '\n'] ++ spell lines rest := by
      rw [spell, List.flatMap_cons, List.append_assoc]
      rfl
    rw [hspell, cutLines_append, hfirst, List.nil_append, ih hmore]
    rfl

end BringUp.Reply
