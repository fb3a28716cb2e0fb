import BringUp.Proofs.Text.Words

/-!
# Where the lines of a text end

A line ends with a line feed. A single carriage return before it belongs to the end, any other one
to the line, and the last line needs no end. Every text has its lines in exactly one way, and these
are the lines that are read.

* `Lined`: a text with its lines.
* `lines_eq_of_lined`: these are the lines that are read.
* `exists_lined`: every text has its lines.
-/

namespace BringUp.Text

/-- A text with its lines. -/
inductive Lined : List Char → List String → Prop where
  /-- Nothing at all. -/
  | nil : Lined [] []
  /-- A last line without an end. -/
  | last {line : String} : line ≠ "" → '\n' ∉ line.toList → Lined line.toList [line]
  /-- A line that a line feed alone ends. -/
  | feed {line : String} {rest : List Char} {lines : List String} :
      '\n' ∉ line.toList → line.toList.getLast? ≠ some '\r' → Lined rest lines →
      Lined (line.toList ++ '\n' :: rest) (line :: lines)
  /-- A line that a carriage return and a line feed end. -/
  | returnFeed {line : String} {rest : List Char} {lines : List String} :
      '\n' ∉ line.toList → Lined rest lines →
      Lined (line.toList ++ '\r' :: '\n' :: rest) (line :: lines)

variable {text line rest : List Char}

/-- No line has a line feed in it. -/
theorem Lined.feed_notMem {lines : List String} (h : Lined text lines) :
    ∀ line ∈ lines, '\n' ∉ line.toList := by
  induction h with
  | nil => simp
  | last _ hfeed => simpa using hfeed
  | feed hfeed _ _ ih => exact List.forall_mem_cons.2 ⟨hfeed, ih⟩
  | returnFeed hfeed _ ih => exact List.forall_mem_cons.2 ⟨hfeed, ih⟩

/-- There is always a piece. -/
theorem pieces_ne_nil (p : Char → Bool) (text : List Char) : pieces p text ≠ [] := by
  cases text with
  | nil => simp [pieces]
  | cons c text =>
    simp only [pieces]
    split
    · exact List.cons_ne_nil _ _
    · split <;> exact List.cons_ne_nil _ _

/-- The first line feed ends the first line. -/
theorem linesOfPieces_feed (hline : '\n' ∉ line) (rest : List Char) :
    linesOfPieces (pieces (· == '\n') (line ++ '\n' :: rest)) =
      dropReturn line :: linesOfPieces (pieces (· == '\n') rest) := by
  have hfront : ∀ c ∈ line, (c == '\n') = false := fun c hc =>
    beq_eq_false_iff_ne.2 fun heq => hline (heq ▸ hc)
  have hcut : pieces (· == '\n') ('\n' :: rest) = [] :: pieces (· == '\n') rest := by
    simp [pieces]
  rw [pieces_append hfront hcut, List.append_nil]
  obtain ⟨piece, more, hpieces⟩ := List.exists_cons_of_ne_nil (pieces_ne_nil (· == '\n') rest)
  rw [hpieces]
  rfl

/-- A text without a line feed is a single line. -/
theorem linesOfPieces_last (hne : line ≠ []) (hline : '\n' ∉ line) :
    linesOfPieces (pieces (· == '\n') line) = [line] := by
  have hfront : ∀ c ∈ line, (c == '\n') = false := fun c hc =>
    beq_eq_false_iff_ne.2 fun heq => hline (heq ▸ hc)
  have hpieces : pieces (· == '\n') (line ++ []) = [line ++ []] := pieces_append hfront rfl
  rw [List.append_nil] at hpieces
  simp [hpieces, linesOfPieces, hne]

/-- A line keeps a carriage return only if it does not stand at its end. -/
theorem dropReturn_of_getLast? (h : line.getLast? ≠ some '\r') : dropReturn line = line := by
  simp [dropReturn, h]

/-- One carriage return at the end of a line is dropped. -/
theorem dropReturn_append (line : List Char) : dropReturn (line ++ ['\r']) = line := by
  simp [dropReturn]

/-- The lines that are read are those that the text has. -/
theorem lines_eq_of_lined {s : String} {ls : List String} (h : Lined s.toList ls) :
    lines s = ls := by
  suffices hpieces : ∀ text, Lined text ls →
      (linesOfPieces (pieces (· == '\n') text)).map String.ofList = ls from hpieces _ h
  clear h
  intro text h
  induction h with
  | nil => rfl
  | last hne hline => simp [linesOfPieces_last (by simpa using hne) hline]
  | feed hline hlast _ ih =>
    rw [linesOfPieces_feed hline, dropReturn_of_getLast? hlast, List.map_cons, ih,
      String.ofList_toList]
  | @returnFeed line rest lines hline _ ih =>
    have hsplit : line.toList ++ '\r' :: '\n' :: rest =
        (line.toList ++ ['\r']) ++ '\n' :: rest := by
      simp
    have hfeed : '\n' ∉ line.toList ++ ['\r'] := by simpa using hline
    rw [hsplit, linesOfPieces_feed hfeed, dropReturn_append, List.map_cons, ih,
      String.ofList_toList]

/-- Every text has its lines. -/
theorem exists_lined (text : List Char) : ∃ lines, Lined text lines := by
  induction hlength : text.length using Nat.strongRecOn generalizing text with
  | ind n ih =>
    by_cases hfeed : '\n' ∈ text
    · -- The first line feed ends a line, and the rest has its lines.
      obtain ⟨front, rest, rfl, hfront⟩ := List.eq_append_cons_of_mem hfeed
      obtain ⟨lines, hlines⟩ := ih rest.length (by simp at hlength; omega) rest rfl
      by_cases hlast : front.getLast? = some '\r'
      · obtain ⟨line, rfl⟩ := List.getLast?_eq_some_iff.1 hlast
        have hline : '\n' ∉ (String.ofList line).toList := by
          rw [String.toList_ofList]
          exact fun hmem => hfront (List.mem_append_left _ hmem)
        refine ⟨String.ofList line :: lines, ?_⟩
        simpa using Lined.returnFeed hline hlines
      · refine ⟨String.ofList front :: lines, ?_⟩
        simpa using @Lined.feed (String.ofList front) _ _ (by simpa using hfront)
          (by simpa using hlast) hlines
    · cases text with
      | nil => exact ⟨[], .nil⟩
      | cons c text =>
        refine ⟨[String.ofList (c :: text)], ?_⟩
        simpa using @Lined.last (String.ofList (c :: text)) (by simp) (by simpa using hfeed)

/-- A blank line is a line, and of two carriage returns before a line feed one belongs to the
line. -/
example : lines "a\r\r\n\r\n\nb" = ["a\r", "", "", "b"] := by decide

end BringUp.Text
