import BringUp.Text.Blank

/-!
# Words with blanks around them

A text may hold words with blanks between them and at both ends. However many blanks there are, and
of which kind, the text has exactly these words.

* `Spaced`: a text with its words.
* `words_eq_of_spaced`: these are the words that are read.
-/

namespace BringUp.Text

/-- A text of words with one or more blanks between them and any blanks at both ends. -/
inductive Spaced : List Char → List String → Prop where
  /-- Nothing at all. -/
  | nil : Spaced [] []
  /-- A blank before the rest. -/
  | blank {c : Char} {text : List Char} {words : List String} :
      isBlank c = true → Spaced text words → Spaced (c :: text) words
  /-- A word before the rest, which starts with a blank unless it is empty. -/
  | word {word : String} {text : List Char} {words : List String} :
      word ≠ "" → (∀ c ∈ word.toList, isBlank c = false) →
      (∀ c, text.head? = some c → isBlank c = true) → Spaced text words →
      Spaced (word.toList ++ text) (word :: words)

variable {text : List Char} {c : Char}

/-- A word before a blank and the rest. -/
theorem Spaced.word_blank {word : String} {words : List String} (hne : word ≠ "")
    (hword : ∀ c ∈ word.toList, isBlank c = false) (hc : isBlank c = true)
    (h : Spaced text words) : Spaced (word.toList ++ c :: text) (word :: words) := by
  refine .word hne hword (fun d hd => ?_) (.blank hc h)
  cases hd
  exact hc

/-- A text of blanks has no words. -/
theorem Spaced.of_blanks (h : ∀ c ∈ text, isBlank c = true) : Spaced text [] := by
  induction text with
  | nil => exact .nil
  | cons c text ih =>
    obtain ⟨hc, hrest⟩ := List.forall_mem_cons.1 h
    exact .blank hc (ih hrest)

/-- A character that is no blank stands in a word or nowhere. -/
theorem Spaced.notMem {words : List String} (h : Spaced text words) (hc : isBlank c = false)
    (hwords : ∀ word ∈ words, c ∉ word.toList) : c ∉ text := by
  induction h with
  | nil => exact List.not_mem_nil
  | blank hd _ ih =>
    rw [List.mem_cons, not_or]
    refine ⟨?_, ih hwords⟩
    rintro rfl
    rw [hc] at hd
    cases hd
  | word _ _ _ _ ih =>
    obtain ⟨hword, hrest⟩ := List.forall_mem_cons.1 hwords
    rw [List.mem_append, not_or]
    exact ⟨hword, ih hrest⟩

/-- A front that is not cut belongs to the first piece. -/
theorem pieces_append {p : Char → Bool} {front : List Char} (hfront : ∀ c ∈ front, p c = false)
    {piece : List Char} {rest : List (List Char)} (h : pieces p text = piece :: rest) :
    pieces p (front ++ text) = (front ++ piece) :: rest := by
  induction front with
  | nil => exact h
  | cons c front ih =>
    obtain ⟨hc, hrest⟩ := List.forall_mem_cons.1 hfront
    simp [pieces, hc, ih hrest]

/-- The words that are read are those of which the text is made. -/
theorem words_eq_of_spaced {s : String} {ws : List String} (h : Spaced s.toList ws) :
    words s = ws := by
  suffices hfilter : ∀ text, Spaced text ws →
      ((pieces isBlank text).filter (!·.isEmpty)).map String.ofList = ws from hfilter _ h
  clear h
  intro text h
  induction h with
  | nil => rfl
  | blank hc _ ih => simpa [pieces, hc] using ih
  | @word word text words hne hword hstart _ ih =>
    -- Behind the word the text is at its end or has a blank, which cuts it there.
    cases text with
    | nil =>
      have hpieces : pieces isBlank (word.toList ++ []) = [word.toList ++ []] :=
        pieces_append hword rfl
      rw [hpieces]
      simpa [pieces, hne] using ih
    | cons c text =>
      have hcut : pieces isBlank (c :: text) = [] :: pieces isBlank text := by
        simp [pieces, hstart c rfl]
      rw [hcut] at ih
      rw [pieces_append hword hcut]
      simpa [hne] using ih

/-- Any kind of blank does, and any number of them. -/
example : words "\t absdiff  5\u00a0-7\n" = ["absdiff", "5", "-7"] := by decide

end BringUp.Text
