import BringUp.Text.Blank
import Mathlib.Data.List.TakeWhile

/-!
# Blanks around a text

A text without the blanks at both ends is the one text that has none there and is completed to it by
blanks.

* `Trims`: a text and what it is without the blanks at both ends.
* `trimChars_eq_iff`: this is how a text is trimmed.
* `trims_append_iff`: one more blank at the end of a text changes nothing.
-/

namespace BringUp.Text

/-- A text has blanks around another one, which has none at its ends. -/
structure Trims (text core : List Char) : Prop where
  /-- There are blanks before and behind the other text. -/
  spelled : ∃ front back, text = front ++ core ++ back ∧ (∀ c ∈ front, isBlank c = true) ∧
    ∀ c ∈ back, isBlank c = true
  /-- The other text does not start with a blank. -/
  head : ∀ c, core.head? = some c → isBlank c = false
  /-- It does not end with one. -/
  last : ∀ c, core.getLast? = some c → isBlank c = false

variable {text core : List Char}

/-- A text without blanks at its ends is what it is without them. -/
theorem trims_self (hhead : ∀ c, core.head? = some c → isBlank c = false)
    (hlast : ∀ c, core.getLast? = some c → isBlank c = false) : Trims core core :=
  ⟨⟨[], [], by simp⟩, hhead, hlast⟩

/-- Blanks before a text without one at its start are dropped. -/
theorem trimFront_append {front : List Char} (hfront : ∀ c ∈ front, isBlank c = true)
    (hhead : ∀ c, text.head? = some c → isBlank c = false) : trimFront (front ++ text) = text := by
  rw [trimFront, List.dropWhile_append_of_pos hfront]
  cases text with
  | nil => rfl
  | cons c text => simp [hhead c rfl]

/-- Blanks behind a text without one at its end are dropped. -/
theorem trimBack_append {back : List Char} (hback : ∀ c ∈ back, isBlank c = true)
    (hlast : ∀ c, text.getLast? = some c → isBlank c = false) : trimBack (text ++ back) = text := by
  have hreverse : trimFront (back.reverse ++ text.reverse) = text.reverse :=
    trimFront_append (by simpa using hback) (by simpa using hlast)
  rw [trimBack, List.reverse_append, ← trimFront, hreverse, List.reverse_reverse]

/-- Blanks stand before what is left of a text without those at its start. -/
theorem exists_trimFront (text : List Char) :
    ∃ front, text = front ++ trimFront text ∧ ∀ c ∈ front, isBlank c = true :=
  ⟨text.takeWhile isBlank, List.takeWhile_append_dropWhile.symm, fun _ => List.mem_takeWhile_imp⟩

/-- What is left of a text without the blanks at its start does not start with one. -/
theorem head?_trimFront {c : Char} (h : (trimFront text).head? = some c) : isBlank c = false := by
  obtain ⟨rest, hrest⟩ := List.head?_eq_some_iff.1 h
  have hnot := List.head?_dropWhile_not isBlank text
  rw [trimFront] at hrest
  simpa [hrest] using hnot

/-- What a text is without the blanks at both ends. -/
theorem trims_trimChars (text : List Char) : Trims text (trimChars text) := by
  obtain ⟨front, hfront, hblank⟩ := exists_trimFront text
  -- What is trimmed at the end is trimmed at the start of the reversed text.
  obtain ⟨back, hback, hblank'⟩ := exists_trimFront (trimFront text).reverse
  have hcore : trimFront text = trimChars text ++ back.reverse := by
    rw [← List.reverse_reverse (trimFront text), hback, List.reverse_append]
    rfl
  refine ⟨⟨front, back.reverse, ?_, hblank, by simpa using hblank'⟩, fun c hc => ?_, fun c hc => ?_⟩
  · rw [List.append_assoc, ← hcore]
    exact hfront
  · have hhead : (trimFront text).head? = some c := by
      rw [hcore, List.head?_append, hc, Option.some_or]
    exact head?_trimFront hhead
  · rw [trimChars, trimBack, List.getLast?_reverse] at hc
    exact head?_trimFront hc

/-- A text is trimmed to what it is without the blanks at both ends. -/
theorem trimChars_eq_iff : trimChars text = core ↔ Trims text core := by
  constructor
  · rintro rfl
    exact trims_trimChars text
  · rintro ⟨⟨front, back, rfl, hfront, hback⟩, hhead, hlast⟩
    rw [trimChars, List.append_assoc, trimFront, List.dropWhile_append_of_pos hfront, ← trimFront]
    cases core with
    | nil =>
      have hnil : trimFront ([] ++ back) = [] := by simpa [trimFront] using hback
      rw [hnil]
      rfl
    | cons c core =>
      have hstart : trimFront (c :: core ++ back) = c :: core ++ back := by
        simp [trimFront, hhead c rfl]
      rw [hstart, trimBack_append hback hlast]

/-- A blank at the end of a text is no part of what is left without them. -/
theorem trims_append_iff {c : Char} (hc : isBlank c = true) :
    Trims (text ++ [c]) core ↔ Trims text core := by
  have hsame : trimChars (text ++ [c]) = trimChars text := by
    obtain ⟨⟨front, back, htext, hfront, hback⟩, hhead, hlast⟩ := trims_trimChars text
    refine trimChars_eq_iff.2 ⟨⟨front, back ++ [c], ?_, hfront, ?_⟩, hhead, hlast⟩
    · rw [← List.append_assoc, ← htext]
    · simpa [or_imp, forall_and, hc] using hback
  rw [← trimChars_eq_iff, ← trimChars_eq_iff, hsame]

end BringUp.Text
