import BringUp.Proofs.Step.Expectation
import BringUp.Proofs.Text.Numeral
import BringUp.Step.Comparison
import Mathlib.Data.List.TakeWhile

/-!
# The grammar of a comparison

A comparison has three forms, and which one a text has is told by the operators in it: `><` counts
before `==`, and `==` before `|`, wherever they stand, and of each of them the first. What stands
before that operator is the command, and the rest has to have the form that the operator asks for. A
text of none of the forms is refused for its format, unless its pattern is all that is wrong.

* `Comparison.Written`: the texts of a comparison.
* `Comparison.BadPattern`: the texts with nothing wrong but their pattern.
* `Comparison.readCounted_eq_ok_iff`, `Comparison.readBetween_eq_ok_iff`: what is read behind an
  operator.
* `Comparison.read_eq_ok_iff`, `Comparison.read_eq_error`: what is read of a text.
* `Comparison.read_iff_written`: all of this, and that each form is read back to its parts.
-/

namespace BringUp.Comparison

open Text (FirstCut Numeral)

/-- How a comparison is written. -/
inductive Written (body : List Char) : Comparison → Prop where
  /-- A command and bounds for one line. -/
  | between {command digits low high : List Char} :
      FirstCut betweenOperator body command
        ('(' :: digits ++ [')', '['] ++ low ++ ',' :: high ++ [']']) →
      Numeral digits 1 → ',' ∉ low → '\n' ∉ low → ',' ∉ high → '\n' ∉ high →
      Written body ⟨String.ofList command,
        .between (Text.trim (String.ofList low)) (Text.trim (String.ofList high))⟩
  /-- A command, a count of lines, and the expected one among them. -/
  | contains {command digits expected : List Char} {count : Nat} :
      ¬ betweenOperator <:+: body →
      FirstCut containsOperator body command ('(' :: digits ++ ')' :: expected) →
      Numeral digits count → 1 ≤ count → count ≤ Text.maxWord64 → expected ≠ [] → '\n' ∉ expected →
      Written body ⟨String.ofList command, .contains count (String.ofList expected)⟩
  /-- A command and a pattern. -/
  | pattern {command source : List Char} {p : Pattern} :
      ¬ betweenOperator <:+: body → ¬ containsOperator <:+: body →
      FirstCut patternOperator body command source →
      Pattern.compile (Text.trim (String.ofList source)) = .ok p →
      Written body ⟨String.ofList command, .pattern p⟩

/-- A text is a command and a pattern, but the pattern, without the blanks around it, is none. -/
structure BadPattern (body : List Char) (source : String) (cause : PatternError) : Prop where
  /-- There are no bounds. -/
  noBounds : ¬ betweenOperator <:+: body
  /-- There is no count. -/
  noCount : ¬ containsOperator <:+: body
  /-- The text is cut before the pattern. -/
  cut : ∃ command text, FirstCut patternOperator body command text ∧
    source = Text.trim (String.ofList text)
  /-- The pattern cannot be read. -/
  bad : Pattern.compile source = .error cause

/-- The command of a comparison is its front. -/
theorem Written.command_front {body : List Char} {c : Comparison} (h : Written body c) :
    c.command.toList <+: body := by
  have hfront {sep command right : List Char} (hcut : FirstCut sep body command right) :
      (String.ofList command).toList <+: body := by
    rw [String.toList_ofList]
    exact ⟨sep ++ right, by rw [hcut.spelled, List.append_assoc]⟩
  cases h with
  | between hcut => exact hfront hcut
  | contains _ hcut => exact hfront hcut
  | pattern _ _ hcut => exact hfront hcut

/-! ### Behind an operator -/

variable {right rest low high : List Char} {count : Nat}

/-- A positive count of 64 bits stands in parentheses, and behind it a line that is not empty. -/
def Counted (right : List Char) (count : Nat) (rest : List Char) : Prop :=
  ∃ digits, right = '(' :: digits ++ ')' :: rest ∧ Numeral digits count ∧
    1 ≤ count ∧ count ≤ Text.maxWord64 ∧ rest ≠ [] ∧ '\n' ∉ rest

/-- A count is found where it stands so. -/
theorem counted?_eq_some_iff : counted? right = some (count, rest) ↔ Counted right count rest := by
  constructor
  · intro h
    unfold counted? at h
    split at h
    · next cs =>
      split at h
      · next n tail hread hdrop =>
        have hdigits : ∀ c ∈ cs.takeWhile Char.isDigit, c.isDigit = true := fun c hc =>
          List.mem_takeWhile_imp hc
        obtain ⟨hnumeral, hlimit⟩ := (Text.readNat_eq_ok_iff hdigits).1 hread
        split at h
        · cases h
        · next hgood =>
          cases h
          simp only [Bool.or_eq_true, decide_eq_true_eq, List.isEmpty_iff, List.contains_iff_mem,
            not_or] at hgood
          obtain ⟨⟨hpositive, hrest⟩, hline⟩ := hgood
          refine ⟨cs.takeWhile Char.isDigit, ?_, hnumeral, Nat.one_le_iff_ne_zero.2 hpositive,
            hlimit, hrest, hline⟩
          rw [List.cons_append, ← hdrop, List.takeWhile_append_dropWhile]
      · cases h
    · cases h
  · rintro ⟨digits, rfl, hnumeral, hpositive, hlimit, hrest, hline⟩
    have htake : (digits ++ ')' :: rest).takeWhile Char.isDigit = digits := by
      rw [List.takeWhile_append_of_pos hnumeral.isDigit]
      simp
    have hdrop : (digits ++ ')' :: rest).dropWhile Char.isDigit = ')' :: rest := by
      rw [List.dropWhile_append_of_pos hnumeral.isDigit]
      simp
    have hread : Text.readNat Text.maxWord64 digits = .ok count :=
      (Text.readNat_eq_ok_iff hnumeral.isDigit).2 ⟨hnumeral, hlimit⟩
    have hzero : count ≠ 0 := by omega
    simp [counted?, htake, hdrop, hread, hzero, hrest, hline]

/-- A count that is found is read. -/
theorem readCounted_eq_ok_iff :
    readCounted right = .ok (count, rest) ↔ Counted right count rest := by
  rw [← counted?_eq_some_iff, readCounted]
  cases counted? right <;> simp

/-- Anything else behind a count is refused for its format. -/
theorem readCounted_eq_error {e : StepError} (h : readCounted right = .error e) :
    ∃ reason, e = .invalidFormat reason := by
  unfold readCounted at h
  split at h
  · cases h
  · cases h
    exact ⟨_, rfl⟩

/-- A text has two parts around a comma, if it has no other. -/
theorem pair?_eq_some_iff {inner : List Char} : pair? inner = some (low, high) ↔
    inner = low ++ ',' :: high ∧ ',' ∉ low ∧ ',' ∉ high := by
  constructor
  · intro h
    unfold pair? at h
    split at h
    · next hsplit =>
      split at h
      · cases h
      · next hhigh =>
        cases h
        obtain ⟨hinner, hlow⟩ := Text.splitOnce?_char_eq_some_iff.1 hsplit
        exact ⟨hinner, hlow, by simpa using hhigh⟩
    · cases h
  · rintro ⟨hinner, hlow, hhigh⟩
    have hsplit := Text.splitOnce?_char_eq_some_iff.2 ⟨hinner, hlow⟩
    simp [pair?, hsplit, hhigh]

/-- Brackets span a text if they are its first and its last character, with others between. -/
theorem bracketed?_eq_some_iff {cs inner : List Char} :
    bracketed? cs = some inner ↔ cs = '[' :: (inner ++ [']']) ∧ inner ≠ [] := by
  constructor
  · intro h
    unfold bracketed? at h
    split at h
    · next cs =>
      split at h
      · next hlast =>
        cases h
        simp only [Bool.and_eq_true, decide_eq_true_eq] at hlast
        exact ⟨congrArg _ (List.dropLast_append_getLast? ']' hlast.1).symm, hlast.2⟩
      · cases h
    · cases h
  · rintro ⟨rfl, hne⟩
    rw [bracketed?, List.getLast?_concat, List.dropLast_concat]
    simp [hne]

/-- Bounds stand in brackets around a single comma. -/
theorem bounds_eq_some_iff {bounds : List Char} :
    (bracketed? bounds).bind pair? = some (low, high) ↔
      bounds = '[' :: low ++ ',' :: high ++ [']'] ∧ ',' ∉ low ∧ ',' ∉ high := by
  simp only [Option.bind_eq_some_iff, bracketed?_eq_some_iff, pair?_eq_some_iff]
  constructor
  · rintro ⟨inner, ⟨rfl, -⟩, rfl, hcommas⟩
    exact ⟨by simp, hcommas⟩
  · rintro ⟨rfl, hcommas⟩
    exact ⟨low ++ ',' :: high, ⟨by simp, by simp⟩, rfl, hcommas⟩

/-- Bounds are read where they stand behind a count of one. -/
theorem readBetween_eq_ok_iff {check : ReplyCheck} : readBetween right = .ok check ↔
    ∃ digits low high, right = '(' :: digits ++ [')', '['] ++ low ++ ',' :: high ++ [']'] ∧
      Numeral digits 1 ∧ (',' ∉ low ∧ '\n' ∉ low) ∧ (',' ∉ high ∧ '\n' ∉ high) ∧
      check = .between (Text.trim (String.ofList low)) (Text.trim (String.ofList high)) := by
  unfold readBetween
  constructor
  · intro h
    cases hcounted : readCounted right with
    | error error => simp [hcounted, bind, Except.bind] at h
    | ok found =>
      obtain ⟨count, bounds⟩ := found
      obtain ⟨digits, rfl, hnumeral, -, -, -, hline⟩ := readCounted_eq_ok_iff.1 hcounted
      simp only [hcounted, bind, Except.bind] at h
      split at h
      · cases h
      · next hone =>
        obtain rfl : count = 1 := by simpa using hone
        split at h
        · next low high hbounds =>
          cases h
          obtain ⟨rfl, hlow, hhigh⟩ := bounds_eq_some_iff.1 hbounds
          simp only [List.cons_append, List.append_assoc, List.mem_cons, List.mem_append,
            not_or] at hline
          exact ⟨digits, low, high, by simp, hnumeral, ⟨hlow, hline.2.1⟩, ⟨hhigh, hline.2.2.2.1⟩,
            rfl⟩
        · cases h
  · rintro ⟨digits, low, high, rfl, hnumeral, ⟨hlow, hlow'⟩, ⟨hhigh, hhigh'⟩, rfl⟩
    have hcounted : Counted ('(' :: digits ++ [')', '['] ++ low ++ ',' :: high ++ [']']) 1
        ('[' :: low ++ ',' :: high ++ [']']) :=
      ⟨digits, by simp, hnumeral, by omega, by decide, by simp, by simp [hlow', hhigh']⟩
    have hbounds := bounds_eq_some_iff.2 ⟨rfl, hlow, hhigh⟩
    simp only [readCounted_eq_ok_iff.2 hcounted, bind, Except.bind, hbounds]
    rfl

/-- Anything else behind the operator of bounds is refused for its format. -/
theorem readBetween_eq_error {e : StepError} (h : readBetween right = .error e) :
    ∃ reason, e = .invalidFormat reason := by
  unfold readBetween at h
  cases hcounted : readCounted right with
  | error error =>
    rw [hcounted] at h
    cases h
    exact readCounted_eq_error hcounted
  | ok found =>
    simp only [hcounted, bind, Except.bind] at h
    split at h
    · cases h
      exact ⟨_, rfl⟩
    · split at h
      · cases h
      · cases h
        exact ⟨_, rfl⟩

/-! ### Whole texts -/

variable {body : String} {command : List Char} {c : Comparison} {e : StepError}

/-- A text with the operator of bounds is read as such, whatever else stands in it. -/
theorem read_of_bounds (hcut : FirstCut betweenOperator body.toList command right) :
    read body = (readBetween right).map fun check => ⟨String.ofList command, check⟩ := by
  rw [read, Text.splitOnce?_eq_some_iff.2 hcut]

/-- Without it, a text with the operator of a count is read as such. -/
theorem read_of_count (hnobounds : ¬ betweenOperator <:+: body.toList)
    (hcut : FirstCut containsOperator body.toList command right) :
    read body = (readCounted right).map fun found =>
      ⟨String.ofList command, .contains found.1 (String.ofList found.2)⟩ := by
  rw [read, Text.splitOnce?_eq_none_iff.2 hnobounds]
  simp only [Text.splitOnce?_eq_some_iff.2 hcut]

/-- Without either, a text with a bar is read as one with a pattern. -/
theorem read_of_bar (hnobounds : ¬ betweenOperator <:+: body.toList)
    (hnocount : ¬ containsOperator <:+: body.toList)
    (hcut : FirstCut patternOperator body.toList command right) :
    read body = (Expectation.readPattern right).map fun p =>
      ⟨String.ofList command, .pattern p⟩ := by
  rw [read, Text.splitOnce?_eq_none_iff.2 hnobounds]
  simp only [Text.splitOnce?_eq_none_iff.2 hnocount, Text.splitOnce?_eq_some_iff.2 hcut]

/-- A text without an operator is refused. -/
theorem read_of_no_operator (hnobounds : ¬ betweenOperator <:+: body.toList)
    (hnocount : ¬ containsOperator <:+: body.toList)
    (hnobar : ¬ patternOperator <:+: body.toList) :
    read body =
      .error (.invalidFormat ("unsupported comparison in " ++ Text.Quoted.quote body)) := by
  rw [read, Text.splitOnce?_eq_none_iff.2 hnobounds]
  simp only [Text.splitOnce?_eq_none_iff.2 hnocount, Text.splitOnce?_eq_none_iff.2 hnobar]

/-- A comparison is read of exactly the texts of its grammar. -/
theorem read_eq_ok_iff : read body = .ok c ↔ Written body.toList c := by
  by_cases hbounds : betweenOperator <:+: body.toList
  · obtain ⟨command, right, hcut⟩ := Text.exists_firstCut hbounds
    rw [read_of_bounds hcut, map_eq_ok_iff]
    constructor
    · rintro ⟨check, hread, rfl⟩
      obtain ⟨digits, low, high, rfl, hnumeral, ⟨hlow, hlow'⟩, ⟨hhigh, hhigh'⟩, rfl⟩ :=
        readBetween_eq_ok_iff.1 hread
      exact .between hcut hnumeral hlow hlow' hhigh hhigh'
    · intro h
      cases h with
      | between hcut' hnumeral hlow hlow' hhigh hhigh' =>
        obtain ⟨rfl, rfl⟩ := hcut.unique hcut'
        exact ⟨_, readBetween_eq_ok_iff.2
          ⟨_, _, _, rfl, hnumeral, ⟨hlow, hlow'⟩, ⟨hhigh, hhigh'⟩, rfl⟩, rfl⟩
      | contains hnobounds => exact absurd hbounds hnobounds
      | pattern hnobounds => exact absurd hbounds hnobounds
  by_cases hcount : containsOperator <:+: body.toList
  · obtain ⟨command, right, hcut⟩ := Text.exists_firstCut hcount
    rw [read_of_count hbounds hcut, map_eq_ok_iff]
    constructor
    · rintro ⟨⟨count, expected⟩, hread, rfl⟩
      obtain ⟨digits, rfl, hnumeral, hpositive, hlimit, hne, hline⟩ :=
        readCounted_eq_ok_iff.1 hread
      exact .contains hbounds hcut hnumeral hpositive hlimit hne hline
    · intro h
      cases h with
      | between hcut' => exact absurd hcut'.stands hbounds
      | contains _ hcut' hnumeral hpositive hlimit hne hline =>
        obtain ⟨rfl, rfl⟩ := hcut.unique hcut'
        exact ⟨(_, _), readCounted_eq_ok_iff.2
          ⟨_, rfl, hnumeral, hpositive, hlimit, hne, hline⟩, rfl⟩
      | pattern _ hnocount => exact absurd hcount hnocount
  by_cases hbar : patternOperator <:+: body.toList
  · obtain ⟨command, right, hcut⟩ := Text.exists_firstCut hbar
    rw [read_of_bar hbounds hcount hcut, map_eq_ok_iff]
    constructor
    · rintro ⟨p, hread, rfl⟩
      exact .pattern hbounds hcount hcut (Expectation.readPattern_eq_ok_iff.1 hread)
    · intro h
      cases h with
      | between hcut' => exact absurd hcut'.stands hbounds
      | contains _ hcut' => exact absurd hcut'.stands hcount
      | pattern _ _ hcut' hcompile =>
        obtain ⟨rfl, rfl⟩ := hcut.unique hcut'
        exact ⟨_, Expectation.readPattern_eq_ok_iff.2 hcompile, rfl⟩
  · rw [read_of_no_operator hbounds hcount hbar]
    refine iff_of_false (by simp) fun h => ?_
    cases h with
    | between hcut => exact hbounds hcut.stands
    | contains _ hcut => exact hcount hcut.stands
    | pattern _ _ hcut => exact hbar hcut.stands

/-- A text of another form is refused, for its pattern if nothing else is wrong, and for its format
if anything else is. -/
theorem read_eq_error (h : read body = .error e) :
    (∃ source cause, BadPattern body.toList source cause ∧ e = .invalidPattern source cause) ∨
      (∀ source cause, ¬ BadPattern body.toList source cause) ∧
        ∃ reason, e = .invalidFormat reason := by
  by_cases hbounds : betweenOperator <:+: body.toList
  · obtain ⟨command, right, hcut⟩ := Text.exists_firstCut hbounds
    rw [read_of_bounds hcut, map_eq_error_iff] at h
    exact .inr ⟨fun _ _ hbad => hbad.noBounds hbounds, readBetween_eq_error h⟩
  by_cases hcount : containsOperator <:+: body.toList
  · obtain ⟨command, right, hcut⟩ := Text.exists_firstCut hcount
    rw [read_of_count hbounds hcut, map_eq_error_iff] at h
    exact .inr ⟨fun _ _ hbad => hbad.noCount hcount, readCounted_eq_error h⟩
  by_cases hbar : patternOperator <:+: body.toList
  · obtain ⟨command, right, hcut⟩ := Text.exists_firstCut hbar
    rw [read_of_bar hbounds hcount hcut, map_eq_error_iff] at h
    obtain ⟨cause, hcompile, rfl⟩ := Expectation.readPattern_eq_error_iff.1 h
    exact .inl ⟨_, cause, ⟨hbounds, hcount, ⟨command, right, hcut, rfl⟩, hcompile⟩, rfl⟩
  · rw [read_of_no_operator hbounds hcount hbar] at h
    cases h
    refine .inr ⟨fun _ _ hbad => ?_, _, rfl⟩
    obtain ⟨command, text, hcut, -⟩ := hbad.cut
    exact hbar hcut.stands

/-! ### Texts made of their parts -/

/-- Bounds are read back behind a command without their operator. -/
theorem written_bounds {command digits low high : String}
    (hcommand : ¬ betweenOperator <:+: command.toList) (hdigits : Numeral digits.toList 1)
    (hlow : ',' ∉ low.toList ∧ '\n' ∉ low.toList)
    (hhigh : ',' ∉ high.toList ∧ '\n' ∉ high.toList) :
    Written (command ++ "><(" ++ digits ++ ")[" ++ low ++ "," ++ high ++ "]").toList
      ⟨command, .between (Text.trim low) (Text.trim high)⟩ := by
  -- The operator has two different characters, so none ends inside it.
  have hfront : ¬ betweenOperator <:+: command.toList ++ betweenOperator.dropLast := by
    rw [betweenOperator, Text.pair_infix_append_iff]
    have hshort : ¬ ['>', '<'] <:+: ['>'] := by decide
    simpa [hshort] using (show ¬ ['>', '<'] <:+: command.toList from hcommand)
  have hcut := Text.firstCut_of_not_stands hfront
    ('(' :: digits.toList ++ [')', '['] ++ low.toList ++ ',' :: high.toList ++ [']'])
  have hwritten := Written.between hcut hdigits hlow.1 hlow.2 hhigh.1 hhigh.2
  simpa [betweenOperator] using hwritten

/-- A count and an expected line are read back behind a command that has no operator and does not
end in a part of one. -/
theorem written_count {command digits expected : String} {count : Nat}
    (hcommand : ¬ betweenOperator <:+: command.toList ∧ ¬ containsOperator <:+: command.toList)
    (hlast : command.toList.getLast? ≠ some '=') (hdigits : Numeral digits.toList count)
    (hpositive : 1 ≤ count) (hlimit : count ≤ Text.maxWord64) (hne : expected ≠ "")
    (hline : '\n' ∉ expected.toList) (hexpected : ¬ betweenOperator <:+: expected.toList) :
    Written (command ++ "==(" ++ digits ++ ")" ++ expected).toList
      ⟨command, .contains count expected⟩ := by
  have hfront : ¬ containsOperator <:+: command.toList ++ containsOperator.dropLast := by
    rw [containsOperator, Text.pair_infix_append_iff]
    have hshort : ¬ ['=', '='] <:+: ['='] := by decide
    simpa [hshort, hlast] using (show ¬ ['=', '='] <:+: command.toList from hcommand.2)
  have hcut := Text.firstCut_of_not_stands hfront ('(' :: digits.toList ++ ')' :: expected.toList)
  have hnobounds : ¬ betweenOperator <:+: command.toList ++ containsOperator ++
      ('(' :: digits.toList ++ ')' :: expected.toList) := by
    have hmiddle : '>' ∉ containsOperator ++ ('(' :: digits.toList ++ [')']) := by
      have hdigit : '>' ∉ digits.toList := fun hmem => absurd (hdigits.isDigit _ hmem) (by decide)
      simpa [containsOperator] using hdigit
    have hsplit : command.toList ++ containsOperator ++
        ('(' :: digits.toList ++ ')' :: expected.toList) =
        command.toList ++ ((containsOperator ++ ('(' :: digits.toList ++ [')'])) ++
          expected.toList) := by simp
    rw [hsplit, betweenOperator, Text.pair_infix_append_iff,
      Text.pair_infix_append_right hmiddle]
    have hhead : ((containsOperator ++ ('(' :: digits.toList ++ [')'])) ++
        expected.toList).head? = some '=' := rfl
    rw [hhead]
    simpa using ⟨hcommand.1, hexpected⟩
  have hwritten := Written.contains hnobounds hcut hdigits hpositive hlimit
    (by simpa using hne) hline
  simpa [containsOperator] using hwritten

/-- A pattern is read back behind a command, if neither has another operator. -/
theorem written_pattern {command source : String} {p : Pattern}
    (hcommand : ¬ betweenOperator <:+: command.toList ∧ ¬ containsOperator <:+: command.toList)
    (hbar : '|' ∉ command.toList)
    (hsource : ¬ betweenOperator <:+: source.toList ∧ ¬ containsOperator <:+: source.toList)
    (hcompile : Pattern.compile (Text.trim source) = .ok p) :
    Written (command ++ "|" ++ source).toList ⟨command, .pattern p⟩ := by
  have hcut : FirstCut patternOperator (command.toList ++ '|' :: source.toList) command.toList
      source.toList := Text.firstCut_singleton_iff.2 ⟨rfl, hbar⟩
  have hnone {a b : Char} (ha : a ≠ '|') (hb : b ≠ '|') (hcommand : ¬ [a, b] <:+: command.toList)
      (hsource : ¬ [a, b] <:+: source.toList) :
      ¬ [a, b] <:+: command.toList ++ '|' :: source.toList := by
    have hsplit : command.toList ++ '|' :: source.toList =
        command.toList ++ (['|'] ++ source.toList) := rfl
    rw [hsplit, Text.pair_infix_append_iff, Text.pair_infix_append_right (by simpa using ha)]
    simpa [hcommand, hsource] using fun _ => Ne.symm hb
  have hwritten := Written.pattern (hnone (by decide) (by decide) hcommand.1 hsource.1)
    (hnone (by decide) (by decide) hcommand.2 hsource.2) hcut (by simpa using hcompile)
  simpa using hwritten

/-- A comparison is read of exactly the texts of its grammar, and any other text is refused: for its
pattern if nothing else is wrong with it, else for its format. In particular each of the three forms
is read back to its parts, as long as the operator of the form is the first that counts. -/
theorem read_iff_written :
    (∀ body c, read body = .ok c ↔ Written body.toList c) ∧
    (∀ body, (∀ c, ¬ Written body.toList c) → ∃ e, read body = .error e ∧
      ((∃ source cause, BadPattern body.toList source cause ∧ e = .invalidPattern source cause) ∨
        (∀ source cause, ¬ BadPattern body.toList source cause) ∧
          ∃ reason, e = .invalidFormat reason)) ∧
    (∀ command digits low high : String, ¬ betweenOperator <:+: command.toList →
      Numeral digits.toList 1 → ',' ∉ low.toList ∧ '\n' ∉ low.toList →
      ',' ∉ high.toList ∧ '\n' ∉ high.toList →
      read (command ++ "><(" ++ digits ++ ")[" ++ low ++ "," ++ high ++ "]") =
        .ok ⟨command, .between (Text.trim low) (Text.trim high)⟩) ∧
    (∀ (command digits expected : String) (count : Nat),
      ¬ betweenOperator <:+: command.toList ∧ ¬ containsOperator <:+: command.toList →
      command.toList.getLast? ≠ some '=' → Numeral digits.toList count → 1 ≤ count →
      count ≤ Text.maxWord64 → expected ≠ "" → '\n' ∉ expected.toList →
      ¬ betweenOperator <:+: expected.toList →
      read (command ++ "==(" ++ digits ++ ")" ++ expected) =
        .ok ⟨command, .contains count expected⟩) ∧
    ∀ (command source : String) (p : Pattern),
      ¬ betweenOperator <:+: command.toList ∧ ¬ containsOperator <:+: command.toList →
      '|' ∉ command.toList →
      ¬ betweenOperator <:+: source.toList ∧ ¬ containsOperator <:+: source.toList →
      Pattern.compile (Text.trim source) = .ok p →
      read (command ++ "|" ++ source) = .ok ⟨command, .pattern p⟩ := by
  refine ⟨fun _ _ => read_eq_ok_iff, fun body hnone => ?_, ?_, ?_, ?_⟩
  · cases hread : read body with
    | ok c => exact absurd (read_eq_ok_iff.1 hread) (hnone c)
    | error e => exact ⟨e, rfl, read_eq_error hread⟩
  · intro command digits low high hcommand hdigits hlow hhigh
    exact read_eq_ok_iff.2 (written_bounds hcommand hdigits hlow hhigh)
  · intro command digits expected count hcommand hlast hdigits hpositive hlimit hne hline hexpected
    exact read_eq_ok_iff.2
      (written_count hcommand hlast hdigits hpositive hlimit hne hline hexpected)
  · intro command source p hcommand hbar hsource hcompile
    exact read_eq_ok_iff.2 (written_pattern hcommand hbar hsource hcompile)

end BringUp.Comparison
