import BringUp.Text.Split
import Mathlib.Data.List.Infix

/-!
# Where a text is cut

A text is cut at the first place where a separator stands, also where several of them overlap, and
it is cut nowhere exactly if the separator is no part of it.

* `FirstCut`: the parts around the first separator.
* `splitOnce?_eq_some_iff`, `splitOnce?_eq_none_iff`: this is how a text is cut.
* `splitOnce?_char_eq_some_iff`, `splitOnce?_char_eq_none_iff`: the same at a single character.
* `firstCut_of_not_stands`: a front that does not make a separator any earlier is the first part.
* `pair_infix_append_iff`, `pair_infix_append_right`: where two neighbours may stand in a list of
  two parts.
-/

namespace BringUp.Text

/-- The parts of a text before and after the first place where a separator stands. -/
structure FirstCut (sep text left right : List Char) : Prop where
  /-- The parts and the separator spell the text. -/
  spelled : text = left ++ sep ++ right
  /-- The separator stands nowhere earlier. -/
  first : ∀ before after, text = before ++ sep ++ after → left.length ≤ before.length

variable {sep text left right : List Char} {c : Char}

/-- The separator is a part of a text that is cut at it. -/
theorem FirstCut.stands (h : FirstCut sep text left right) : sep <:+: text :=
  ⟨left, right, h.spelled.symm⟩

/-- A separator at the very front is the first one. -/
theorem firstCut_front (sep right : List Char) : FirstCut sep (sep ++ right) [] right :=
  ⟨rfl, fun _ _ _ => Nat.zero_le _⟩

/-- What does not start with a separator is cut behind its first character. -/
theorem firstCut_cons_iff (h : ¬ sep <+: c :: text) :
    FirstCut sep (c :: text) left right ↔
      ∃ more, left = c :: more ∧ FirstCut sep text more right := by
  constructor
  · rintro ⟨hspelled, hfirst⟩
    cases left with
    | nil => exact absurd ⟨right, hspelled.symm⟩ h
    | cons d more =>
      simp only [List.cons_append, List.cons.injEq] at hspelled
      obtain ⟨rfl, hspelled⟩ := hspelled
      refine ⟨more, rfl, hspelled, fun before after heq => ?_⟩
      have hlength := hfirst (c :: before) after (by rw [heq]; rfl)
      simpa using hlength
  · rintro ⟨more, rfl, hspelled, hfirst⟩
    refine ⟨by rw [hspelled]; rfl, fun before after heq => ?_⟩
    cases before with
    | nil => exact absurd ⟨after, heq.symm⟩ h
    | cons d before =>
      simp only [List.cons_append, List.cons.injEq] at heq
      simpa using hfirst before after heq.2

/-- A text has one first cut at most. -/
theorem FirstCut.unique {left' right' : List Char} (h : FirstCut sep text left right)
    (h' : FirstCut sep text left' right') : left = left' ∧ right = right' := by
  have hlength : left.length = left'.length :=
    Nat.le_antisymm (h.first _ _ h'.spelled) (h'.first _ _ h.spelled)
  have heq := h.spelled.symm.trans h'.spelled
  rw [List.append_assoc, List.append_assoc] at heq
  obtain ⟨hleft, hrest⟩ := List.append_inj heq hlength
  exact ⟨hleft, List.append_cancel_left hrest⟩

/-- A text is cut at its first separator. -/
theorem splitOnce?_eq_some_iff :
    splitOnce? sep text = some (left, right) ↔ FirstCut sep text left right := by
  induction text generalizing left with
  | nil =>
    constructor
    · intro h
      simp only [splitOnce?] at h
      split at h
      · next hempty =>
        obtain rfl : sep = [] := by simpa using hempty
        cases h
        exact firstCut_front [] []
      · cases h
    · rintro ⟨hspelled, -⟩
      simp_all [splitOnce?]
  | cons c text ih =>
    simp only [splitOnce?]
    cases hdrop : dropPrefix? sep (c :: text) with
    | some rest =>
      have hfront := dropPrefix?_eq_some_iff.1 hdrop
      constructor
      · intro h
        cases h
        exact hfront ▸ firstCut_front sep right
      · intro h
        obtain ⟨rfl, rfl⟩ := h.unique (hfront ▸ firstCut_front sep rest)
        rfl
    | none =>
      have hfront : ¬ sep <+: c :: text := by
        rintro ⟨rest, hrest⟩
        rw [dropPrefix?_eq_some_iff.2 hrest.symm] at hdrop
        cases hdrop
      rw [firstCut_cons_iff hfront]
      simp only [Option.map_eq_some_iff, Prod.exists, Prod.mk.injEq]
      constructor
      · rintro ⟨more, _, hcut, rfl, rfl⟩
        exact ⟨more, rfl, ih.1 hcut⟩
      · rintro ⟨more, rfl, hcut⟩
        exact ⟨more, right, ih.2 hcut, rfl, rfl⟩

/-- A text is cut unless the separator is no part of it. -/
theorem splitOnce?_eq_none_iff : splitOnce? sep text = none ↔ ¬ sep <:+: text := by
  induction text with
  | nil => cases sep <;> simp [splitOnce?]
  | cons c text ih =>
    rw [List.infix_cons_iff, not_or, ← ih]
    simp only [splitOnce?]
    cases hdrop : dropPrefix? sep (c :: text) with
    | some rest =>
      have hfront : sep <+: c :: text := ⟨rest, (dropPrefix?_eq_some_iff.1 hdrop).symm⟩
      simp [hfront]
    | none =>
      have hfront : ¬ sep <+: c :: text := by
        rintro ⟨rest, hrest⟩
        rw [dropPrefix?_eq_some_iff.2 hrest.symm] at hdrop
        cases hdrop
      simp [hfront]

/-- A text with a separator in it is cut. -/
theorem exists_firstCut (h : sep <:+: text) : ∃ left right, FirstCut sep text left right := by
  cases hcut : splitOnce? sep text with
  | none => exact absurd h (splitOnce?_eq_none_iff.1 hcut)
  | some parts => exact ⟨parts.1, parts.2, splitOnce?_eq_some_iff.1 hcut⟩

/-- A front is the first part if no separator stands in it, even one that is completed by all but
the last character of the separator behind it. -/
theorem firstCut_of_not_stands (h : ¬ sep <:+: left ++ sep.dropLast) (right : List Char) :
    FirstCut sep (left ++ sep ++ right) left right := by
  refine ⟨rfl, fun before after heq => ?_⟩
  by_contra hearlier
  have hne : sep ≠ [] := by
    rintro rfl
    exact h List.nil_infix
  have hsep : 0 < sep.length := List.length_pos_iff.2 hne
  -- An earlier separator ends before the last character of this one.
  have hfront : left ++ sep.dropLast <+: left ++ sep ++ right := by
    rw [List.append_assoc, List.prefix_append_right_inj]
    exact (List.dropLast_prefix sep).trans (List.prefix_append _ _)
  have hbefore : before ++ sep <+: left ++ sep ++ right := ⟨after, heq.symm⟩
  have hlength : (before ++ sep).length ≤ (left ++ sep.dropLast).length := by
    simp only [List.length_append, List.length_dropLast]
    omega
  exact h ((List.suffix_append _ _).isInfix.trans
    (List.prefix_of_prefix_length_le hbefore hfront hlength).isInfix)

/-- A text is cut at a single character where it stands first. -/
theorem firstCut_singleton_iff :
    FirstCut [c] text left right ↔ text = left ++ c :: right ∧ c ∉ left := by
  constructor
  · rintro ⟨hspelled, hfirst⟩
    refine ⟨by simpa using hspelled, fun hmem => ?_⟩
    obtain ⟨before, after, rfl⟩ := List.append_of_mem hmem
    have hlength := hfirst before (after ++ c :: right) (by simp [hspelled])
    simp only [List.length_append, List.length_cons] at hlength
    omega
  · rintro ⟨rfl, hnot⟩
    have hstands : ¬ [c] <:+: left ++ [c].dropLast := by
      simpa [List.singleton_infix_iff] using hnot
    simpa using firstCut_of_not_stands hstands right

/-- Where a text is cut at a single character. -/
theorem splitOnce?_char_eq_some_iff :
    splitOnce? [c] text = some (left, right) ↔ text = left ++ c :: right ∧ c ∉ left :=
  splitOnce?_eq_some_iff.trans firstCut_singleton_iff

/-- A text is cut at a single character unless it does not have it. -/
theorem splitOnce?_char_eq_none_iff : splitOnce? [c] text = none ↔ c ∉ text := by
  rw [splitOnce?_eq_none_iff, List.singleton_infix_iff]

/-- Two neighbours stand in the first part of a list, in the second, or across both. -/
theorem pair_infix_append_iff {α : Type} {a b : α} {left right : List α} :
    [a, b] <:+: left ++ right ↔
      [a, b] <:+: left ∨ [a, b] <:+: right ∨ left.getLast? = some a ∧ right.head? = some b := by
  induction left with
  | nil => simp
  | cons c left ih =>
    rw [List.cons_append, List.infix_cons_iff, List.infix_cons_iff, ih]
    cases left with
    | nil =>
      have hsingle : ¬ [a, b] <:+: [c] := fun h => by simpa using h.length_le
      cases right with
      | nil => simp
      | cons d right =>
        simp only [List.nil_append, List.infix_nil, List.cons_prefix_cons, List.nil_prefix,
          List.prefix_nil, reduceCtorEq, and_false, and_true, or_false, false_or,
          List.getLast?_singleton, List.head?_cons, Option.some.injEq]
        tauto
    | cons d left => simp [List.cons_prefix_cons, or_assoc]

/-- Behind a part without the first of two neighbours, these stand in the rest. -/
theorem pair_infix_append_right {a b : Char} (h : a ∉ left) :
    [a, b] <:+: left ++ right ↔ [a, b] <:+: right := by
  have hleft : ¬ [a, b] <:+: left := fun hstands => h (hstands.subset List.mem_cons_self)
  have hlast : left.getLast? ≠ some a := fun hlast => h (List.mem_of_getLast? hlast)
  rw [pair_infix_append_iff]
  simp [hleft, hlast]

end BringUp.Text
