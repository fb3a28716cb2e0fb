import BringUp.Proofs.Engine.Atomicity
import BringUp.Proofs.Engine.Bisimulation
import BringUp.Proofs.Text.Cutting
import BringUp.Proofs.Text.LineEnds
import BringUp.Proofs.Text.Numeral
import BringUp.Script.CommandList
import Mathlib.Data.List.Forall2

/-!
# Commands keep their places

A command list has a command for each of its lines, blank ones included, so that a command is found
at the place of its line. Its label is dropped and nothing else, whatever number the label is and
whatever stands behind it. An entry of a sequence that names a place runs the command of the line
there, and there is none exactly if the list has fewer lines.

* `Script.CommandOf`: a line with its command.
* `Script.commandOf_dropLabel`, `Script.CommandOf.dropLabel_eq`: this is the command that is read.
* `Engine.runNext_of_line`: an entry runs its line.
* `Script.commands_keep_places`: all of this for every command list.
-/

namespace BringUp

namespace Engine

/-- Runs a line as the entry at the cursor. -/
def runLine (tools : Tools) (line : String) (e : Engine) (r : Rig) : Advance × Engine × Rig :=
  match Step.ofLine line r.bindings with
  | .error error => e.fail tools error (e.trying r)
  | .ok step => e.conclude tools step.isCheck (step.run tools (e.trying r))

/-- An entry runs its line. -/
theorem runNext_of_line {e : Engine} {entry : Script.Entry} {line : String}
    (hentry : e.entries[e.cursor]? = some entry) (hline : e.line entry = .ok line) (tools : Tools)
    (r : Rig) : e.runNext tools r = e.runLine tools line r := by
  have hstep : e.step entry r.bindings = Step.ofLine line r.bindings := by rw [step, hline]
  rw [runNext_eq, runLine, hentry]
  simp only [hstep]
  rfl

end Engine

namespace Script

open Text (Lined Numeral)

/-- A line of a command list with its command. -/
inductive CommandOf : List Char → List Char → Prop where
  /-- A label and a blank stand before the command. -/
  | labelled {label command : List Char} {number : Nat} : Numeral label number →
      CommandOf (label ++ ' ' :: command) command
  /-- There is nothing but a label. -/
  | alone {label : List Char} {number : Nat} : Numeral label number → CommandOf label []
  /-- There is no label. -/
  | unlabelled {line : List Char} :
      (∀ label number, Numeral label number →
        line ≠ label ∧ ∀ command, line ≠ label ++ ' ' :: command) → CommandOf line line

variable {label line command : List Char} {number : Nat}

/-- A label is a numeral. -/
theorem isLabel_iff : isLabel label = true ↔ ∃ number, Numeral label number := by
  simp only [isLabel, Bool.and_eq_true, Bool.not_eq_true', List.isEmpty_eq_false_iff,
    List.all_eq_true]
  exact ⟨fun h => ⟨_, h.1, h.2, rfl⟩, fun ⟨_, h⟩ => ⟨h.ne_nil, h.isDigit⟩⟩

/-- No blank stands in a numeral. -/
theorem blank_notMem (h : Numeral label number) : ' ' ∉ label :=
  fun hmem => absurd (h.isDigit _ hmem) (by decide)

/-- The command of a line is what is left without the label. -/
theorem commandOf_dropLabel (line : List Char) : CommandOf line (dropLabel line) := by
  unfold dropLabel
  cases hcut : Text.splitOnce? [' '] line with
  | none =>
    have hblank := Text.splitOnce?_char_eq_none_iff.1 hcut
    simp only [Option.getD_none]
    split
    · next hlabel =>
      obtain ⟨number, hnumber⟩ := isLabel_iff.1 hlabel
      exact .alone hnumber
    · next hlabel =>
      refine .unlabelled fun label number hnumber => ⟨?_, ?_⟩
      · rintro rfl
        exact hlabel (isLabel_iff.2 ⟨number, hnumber⟩)
      · rintro command rfl
        exact hblank (by simp)
  | some parts =>
    obtain ⟨front, rest⟩ := parts
    obtain ⟨rfl, hfront⟩ := Text.splitOnce?_char_eq_some_iff.1 hcut
    simp only [Option.getD_some]
    split
    · next hlabel =>
      obtain ⟨number, hnumber⟩ := isLabel_iff.1 hlabel
      exact .labelled hnumber
    · next hlabel =>
      refine .unlabelled fun label number hnumber => ⟨?_, fun command heq => ?_⟩
      · rintro rfl
        exact blank_notMem hnumber (by simp)
      · -- The label would be what stands before the first blank.
        have hcut' : Text.splitOnce? [' '] (front ++ ' ' :: rest) = some (label, command) :=
          Text.splitOnce?_char_eq_some_iff.2 ⟨heq, blank_notMem hnumber⟩
        rw [hcut] at hcut'
        cases hcut'
        exact hlabel (isLabel_iff.2 ⟨number, hnumber⟩)

/-- A line has no other command. -/
theorem CommandOf.dropLabel_eq (h : CommandOf line command) : dropLabel line = command := by
  cases h with
  | @labelled label _ number hnumber =>
    have hcut : Text.splitOnce? [' '] (label ++ ' ' :: command) = some (label, command) :=
      Text.splitOnce?_char_eq_some_iff.2 ⟨rfl, blank_notMem hnumber⟩
    simp [dropLabel, hcut, isLabel_iff.2 ⟨number, hnumber⟩]
  | @alone _ number hnumber =>
    have hcut : Text.splitOnce? [' '] line = none :=
      Text.splitOnce?_char_eq_none_iff.2 (blank_notMem hnumber)
    simp [dropLabel, hcut, isLabel_iff.2 ⟨number, hnumber⟩]
  | unlabelled hnone =>
    -- What `dropLabel` leaves is a command of the line, and without a label it is the line.
    generalize hcommand : dropLabel line = command
    have hdrop := hcommand ▸ commandOf_dropLabel line
    cases hdrop with
    | labelled hnumber => exact absurd rfl ((hnone _ _ hnumber).2 _)
    | alone hnumber => exact absurd rfl (hnone _ _ hnumber).1
    | unlabelled _ => rfl

/-- The command of a line is its end. -/
theorem CommandOf.suffix (h : CommandOf line command) : command <:+ line := by
  cases h with
  | @labelled label _ _ _ => exact ⟨label ++ [' '], by simp⟩
  | alone _ => exact List.nil_suffix
  | unlabelled _ => exact List.suffix_rfl

/-- The text of lines with labels has these lines. -/
theorem lined_labelled {rows : List (String × String)}
    (h : ∀ row ∈ rows, (∃ number, Numeral row.1.toList number) ∧ '\n' ∉ row.2.toList) :
    Lined (String.join (rows.map fun row => row.1 ++ " " ++ row.2 ++ lineEnd)).toList
      (rows.map fun row => row.1 ++ " " ++ row.2) := by
  induction rows with
  | nil => exact .nil
  | cons row rows ih =>
    obtain ⟨⟨⟨number, hnumber⟩, hrow⟩, hrows⟩ := List.forall_mem_cons.1 h
    have hlabel : '\n' ∉ row.1.toList := fun hmem =>
      absurd (hnumber.isDigit _ hmem) (by decide)
    have hline : '\n' ∉ (row.1 ++ " " ++ row.2).toList := by simp [hlabel, hrow]
    simpa [lineEnd, String.toList_join] using Lined.returnFeed hline (ih hrows)

/-- A line is read as its command. -/
def commandText (line : String) : String := String.ofList (dropLabel line.toList)

/-- The command that is read is the command of the line. -/
theorem commandOf_commandText (line : String) :
    CommandOf line.toList (commandText line).toList := by
  rw [commandText, String.toList_ofList]
  exact commandOf_dropLabel line.toList

/-- The commands of a command list are those of its lines, at the same places. -/
theorem commandList_of_lined {content : String} {lines : List String}
    (h : Lined content.toList lines) : commandList content = lines.map commandText := by
  rw [commandList, Text.lines_eq_of_lined h]
  rfl

/-- No command has a line feed in it. -/
theorem feed_notMem_commandList {content : String} :
    ∀ command ∈ commandList content, '\n' ∉ command.toList := by
  intro command hcommand
  obtain ⟨lines, hlines⟩ := Text.exists_lined content.toList
  rw [commandList_of_lined hlines, List.mem_map] at hcommand
  obtain ⟨line, hline, rfl⟩ := hcommand
  exact fun hmem =>
    hlines.feed_notMem line hline ((commandOf_commandText line).suffix.subset hmem)

/-- A text of lines with labels before them, whatever the labels are, has just these lines as its
commands. Any text has a command for each of its lines, the blank ones included, and each is the
line, without its label if there is one. So an entry that names a place runs the command of the line
there, and only if the text has no such line the command is missing. -/
theorem commands_keep_places :
    (∀ rows : List (String × String),
      (∀ row ∈ rows, (∃ number, Numeral row.1.toList number) ∧ '\n' ∉ row.2.toList) →
      commandList (String.join (rows.map fun row => row.1 ++ " " ++ row.2 ++ lineEnd)) =
        rows.map Prod.snd) ∧
    ∀ content : String, ∃ lines, Lined content.toList lines ∧
      List.Forall₂ (fun line command => CommandOf line.toList command.toList) lines
        (commandList content) ∧
      ∀ (e : Engine) (index : Nat), e.commands = commandList content →
        e.entries[e.cursor]? = some (.command index) → ∀ (tools : Tools) (r : Rig),
        (∀ line, lines[index]? = some line → ∃ command : String,
          CommandOf line.toList command.toList ∧
            e.runNext tools r = e.runLine tools command r) ∧
        ∀ missing, (e.runNext tools r).1 = .failed (.missingCommand missing) ↔
          missing = index ∧ lines.length ≤ index := by
  refine ⟨fun rows hrows => ?_, fun content => ?_⟩
  · rw [commandList_of_lined (lined_labelled hrows), List.map_map]
    refine List.map_congr_left fun row hrow => ?_
    obtain ⟨⟨number, hnumber⟩, -⟩ := hrows row hrow
    have hcommand : CommandOf (row.1 ++ " " ++ row.2).toList row.2.toList := by
      simpa using @CommandOf.labelled _ row.2.toList _ hnumber
    rw [Function.comp_apply, commandText, hcommand.dropLabel_eq, String.ofList_toList]
  · obtain ⟨lines, hlines⟩ := Text.exists_lined content.toList
    have hcommands := commandList_of_lined hlines
    refine ⟨lines, hlines, ?_, fun e index he hentry tools r => ⟨fun line hline => ?_,
      fun missing => ?_⟩⟩
    · rw [hcommands, List.forall₂_map_right_iff, List.forall₂_same]
      exact fun line _ => commandOf_commandText line
    · refine ⟨commandText line, commandOf_commandText line,
        Engine.runNext_of_line hentry ?_ tools r⟩
      rw [Engine.line, he, hcommands, List.getElem?_map, hline]
      rfl
    · rw [Engine.advance_runNext, Advance.ofAttempt_eq_failed_iff,
        Engine.attempt?_eq_missingCommand_iff, hentry, he, hcommands, List.length_map]
      constructor
      · rintro ⟨⟨heq, hmissing⟩, -⟩
        cases heq
        exact ⟨rfl, hmissing⟩
      · rintro ⟨rfl, hmissing⟩
        exact ⟨⟨rfl, hmissing⟩, rfl⟩

/-- A label is dropped once, and a line that is nothing but one is an empty command. -/
example : commandList "12 7 A\r\n\n3\nB 4" = ["7 A", "", "", "B 4"] := by decide

end Script

end BringUp
