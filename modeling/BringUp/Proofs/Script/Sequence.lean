import BringUp.Proofs.Text.LineEnds
import BringUp.Proofs.Text.Numeral
import BringUp.Proofs.Text.Trimming
import BringUp.Script.Sequence
import Mathlib.Algebra.Group.Nat.Defs
import Mathlib.Data.List.Forall2

/-!
# Which texts are sequences

A sequence is written with an entry on each line, with blanks around the entries and with any line
ends, and it may have one empty line at its end. It is read as exactly the entries that it is
written with. Any other text has a first line that is no entry, and the failure tells its number.

* `Entry.Fits`, `Entry.On`: an entry that can be written, and a line that it is written on.
* `Written`: a text with its entries.
* `NoEntry`: a line without an entry.
* `readEntry?_eq_some_iff`, `readEntry?_eq_none_iff`: what is read of a line.
* `readSequence_exact`: what is read of a text.
-/

namespace BringUp.Script

open Text (Lined Numeral Trims)

/-- An entry that can be written: its place has 64 bits, and its line starts with `#` and has no
blanks at its ends. -/
def Entry.Fits : Entry → Prop
  | .command index => index < 2 ^ 64
  | .directive line => line.toList.head? = some '#' ∧ Trims line.toList line.toList

/-- What an entry is written with. -/
inductive Entry.Spelled : Entry → List Char → Prop where
  /-- A place is written in digits. -/
  | digits {digits : List Char} {index : Nat} :
      Numeral digits index → Spelled (.command index) digits
  /-- There may be a plus sign. -/
  | plus {digits : List Char} {index : Nat} :
      Numeral digits index → Spelled (.command index) ('+' :: digits)
  /-- A directive is written as it stands. -/
  | directive {line : String} : Spelled (.directive line) line.toList

/-- An entry is written on a line, with blanks around it. -/
def Entry.On (entry : Entry) (line : List Char) : Prop :=
  ∃ front core back, line = front ++ core ++ back ∧ entry.Spelled core ∧
    (∀ c ∈ front, Text.isBlank c = true) ∧ (∀ c ∈ back, Text.isBlank c = true) ∧ '\n' ∉ line

/-- What ends a line. -/
def Ends (ending : List Char) : Prop := ending = ['\n'] ∨ ending = ['\r', '\n']

/-- A text with its entries. -/
inductive Written : List Char → List Entry → Prop where
  /-- Nothing is left. -/
  | nil : Written [] []
  /-- There is an empty line at the end. -/
  | empty {ending : List Char} : Ends ending → Written ending []
  /-- The last line has no end. -/
  | last {line : List Char} {entry : Entry} : entry.On line → Written line [entry]
  /-- A line has an entry. -/
  | cons {line ending rest : List Char} {entry : Entry} {entries : List Entry} :
      entry.On line → Ends ending → Written rest entries →
      Written (line ++ ending ++ rest) (entry :: entries)

/-- A line without an entry: without the blanks around it, it does not start with `#`, and it is no
numeral of 64 bits. -/
def NoEntry (line : String) : Prop :=
  ∃ core, Trims line.toList core ∧ core.head? ≠ some '#' ∧
    ∀ digits index, Numeral digits index → index < 2 ^ 64 → core ≠ digits ∧ core ≠ '+' :: digits

/-- The lines that may have entries: all but a last one that is empty. -/
def Kept (lines kept : List String) : Prop :=
  lines = kept ++ [""] ∨ lines = kept ∧ kept.getLast? ≠ some ""

variable {line : String} {core : List Char} {entry : Entry} {lines : List String} {number : Nat}

/-- A place of 64 bits is written with a numeral, with or without a plus sign. -/
theorem readNat_eq_ok_iff_spelled {index : Nat} :
    Text.readNat Text.maxWord64 core = .ok index ↔
      (Entry.command index).Fits ∧ (Entry.command index).Spelled core := by
  have hrange : index ≤ Text.maxWord64 ↔ index < 2 ^ 64 := by
    simp only [Text.maxWord64]
    omega
  rw [Text.readNat_eq_ok_iff_exists, hrange]
  constructor
  · rintro ⟨digits, rfl | rfl, hnumeral, hlt⟩
    · exact ⟨hlt, .digits hnumeral⟩
    · exact ⟨hlt, .plus hnumeral⟩
  · rintro ⟨hlt, hspelled⟩
    cases hspelled with
    | digits hnumeral => exact ⟨_, .inl rfl, hnumeral, hlt⟩
    | plus hnumeral => exact ⟨_, .inr rfl, hnumeral, hlt⟩

/-- What an entry is written with has something in it and no blanks at its ends. -/
theorem Entry.Spelled.trims (h : entry.Spelled core) (hfits : entry.Fits) :
    core ≠ [] ∧ Trims core core := by
  cases h with
  | digits hnumeral =>
    refine ⟨hnumeral.ne_nil, Text.trims_self (fun c hc => ?_) fun c hc => ?_⟩
    · exact Text.isBlank_of_isDigit (hnumeral.isDigit _ (List.mem_of_mem_head? hc))
    · exact Text.isBlank_of_isDigit (hnumeral.isDigit _ (List.mem_of_getLast? hc))
  | @plus digits _ hnumeral =>
    refine ⟨List.cons_ne_nil _ _, Text.trims_self (fun c hc => ?_) fun c hc => ?_⟩
    · cases hc
      decide
    · rw [List.getLast?_cons_of_ne_nil hnumeral.ne_nil] at hc
      exact Text.isBlank_of_isDigit (hnumeral.isDigit _ (List.mem_of_getLast? hc))
  | directive =>
    obtain ⟨hhead, htrims⟩ := hfits
    exact ⟨fun hnil => by simp [hnil] at hhead, htrims⟩

/-- A fitting entry is written on a line exactly if it is what the line is without the blanks around
it. -/
theorem Entry.on_iff {line : List Char} (hfits : entry.Fits) :
    entry.On line ↔ '\n' ∉ line ∧ ∃ core, Trims line core ∧ entry.Spelled core := by
  constructor
  · rintro ⟨front, core, back, rfl, hspelled, hfront, hback, hfeed⟩
    obtain ⟨-, -, hhead, hlast⟩ := hspelled.trims hfits
    exact ⟨hfeed, core, ⟨⟨front, back, rfl, hfront, hback⟩, hhead, hlast⟩, hspelled⟩
  · rintro ⟨hfeed, core, ⟨⟨front, back, rfl, hfront, hback⟩, -, -⟩, hspelled⟩
    exact ⟨front, core, back, rfl, hspelled, hfront, hback, hfeed⟩

/-- A directive is written with its line only. -/
theorem Entry.spelled_directive_iff : (Entry.directive line).Spelled core ↔ core = line.toList := by
  constructor
  · rintro ⟨⟩
    rfl
  · rintro rfl
    exact .directive

/-- A text that starts with `#` and has no blanks at its ends is a directive. -/
theorem Entry.spelled_of_head? (hhead : core.head? = some '#') (h : Trims core core) :
    (Entry.directive (String.ofList core)).Fits ∧
      (Entry.directive (String.ofList core)).Spelled core := by
  rw [spelled_directive_iff, Fits, String.toList_ofList]
  exact ⟨⟨hhead, h⟩, rfl⟩

/-- What is read of a line depends on what it is without the blanks around it. -/
theorem readEntry?_eq_some_iff_spelled (h : Trims line.toList core) :
    readEntry? line = some entry ↔ entry.Fits ∧ entry.Spelled core := by
  have htrims := Text.trims_self h.head h.last
  unfold readEntry?
  rw [Text.trimChars_eq_iff.2 h]
  split
  · next rest =>
    constructor
    · rintro ⟨⟩
      exact Entry.spelled_of_head? rfl htrims
    · rintro ⟨hfits, hspelled⟩
      cases entry with
      | command index =>
        -- A numeral does not start with `#`.
        obtain ⟨digits, heq | heq, hnumeral, -⟩ :=
          Text.readNat_eq_ok_iff_exists.1 (readNat_eq_ok_iff_spelled.2 ⟨hfits, hspelled⟩)
        · exact absurd (hnumeral.isDigit '#' (heq ▸ List.mem_cons_self)) (by decide)
        · cases heq
      | directive line => rw [Entry.spelled_directive_iff.1 hspelled, String.ofList_toList]
  · next hhash =>
    cases entry with
    | command index =>
      rw [← readNat_eq_ok_iff_spelled]
      cases Text.readNat Text.maxWord64 core <;> simp
    | directive line =>
      have hhead : (Entry.directive line).Fits → core ≠ line.toList := by
        rintro ⟨hhead, -⟩ rfl
        obtain ⟨rest, hrest⟩ := List.head?_eq_some_iff.1 hhead
        exact hhash rest hrest
      refine iff_of_false ?_ fun h => hhead h.1 (Entry.spelled_directive_iff.1 h.2)
      cases Text.readNat Text.maxWord64 core <;> simp

/-- The entry that is read of a line is the fitting one that is written on it. -/
theorem readEntry?_eq_some_iff (hline : '\n' ∉ line.toList) :
    readEntry? line = some entry ↔ entry.Fits ∧ entry.On line.toList := by
  have htrims := Text.trims_trimChars line.toList
  rw [readEntry?_eq_some_iff_spelled htrims]
  constructor
  · rintro ⟨hfits, hspelled⟩
    exact ⟨hfits, (Entry.on_iff hfits).2 ⟨hline, _, htrims, hspelled⟩⟩
  · rintro ⟨hfits, hon⟩
    obtain ⟨-, core, htrims', hspelled⟩ := (Entry.on_iff hfits).1 hon
    rw [Text.trimChars_eq_iff.2 htrims']
    exact ⟨hfits, hspelled⟩

/-- No entry is read of a line exactly if it is without one. -/
theorem readEntry?_eq_none_iff : readEntry? line = none ↔ NoEntry line := by
  constructor
  · intro hnone
    have htrims := Text.trims_trimChars line.toList
    have hentry : ∀ entry : Entry, ¬ (entry.Fits ∧ entry.Spelled (Text.trimChars line.toList)) :=
      fun entry h => by simp [(readEntry?_eq_some_iff_spelled htrims).2 h] at hnone
    refine ⟨_, htrims, fun hhead => ?_, fun digits index hnumeral hlt =>
      ⟨fun heq => ?_, fun heq => ?_⟩⟩
    · exact hentry _ (Entry.spelled_of_head? hhead (Text.trims_self htrims.head htrims.last))
    · exact hentry (.command index) ⟨hlt, heq ▸ .digits hnumeral⟩
    · exact hentry (.command index) ⟨hlt, heq ▸ .plus hnumeral⟩
  · rintro ⟨core, htrims, hhead, hnumeral⟩
    refine Option.eq_none_iff_forall_ne_some.2 fun entry hread => ?_
    obtain ⟨hfits, hspelled⟩ := (readEntry?_eq_some_iff_spelled htrims).1 hread
    cases hspelled with
    | digits h => exact (hnumeral _ _ h hfits).1 rfl
    | plus h => exact (hnumeral _ _ h hfits).2 rfl
    | directive => exact hhead hfits.1

/-- Lines are read exactly if an entry is read of each of them. -/
theorem readEntries_eq_ok_iff {entries : List Entry} :
    readEntries number lines = .ok entries ↔
      List.Forall₂ (fun line entry => readEntry? line = some entry) lines entries := by
  induction lines generalizing number entries with
  | nil => simp [readEntries, eq_comm]
  | cons line lines ih =>
    simp only [readEntries, List.forall₂_cons_left_iff, ← @ih (number + 1)]
    cases readEntry? line with
    | none => simp
    | some entry =>
      cases readEntries (number + 1) lines <;> simp [Except.map, eq_comm]

/-- Lines are not read exactly if one of them is without an entry. -/
theorem readEntries_eq_error_iff :
    (∃ failure, readEntries number lines = .error failure) ↔ ∃ line ∈ lines, NoEntry line := by
  induction lines generalizing number with
  | nil => simp [readEntries]
  | cons line lines ih =>
    rw [List.exists_mem_cons_iff, ← @ih (number + 1), ← readEntry?_eq_none_iff, readEntries]
    cases readEntry? line with
    | none => simp
    | some entry => cases readEntries (number + 1) lines <;> simp [Except.map]

/-- The first line without an entry counts. -/
theorem readEntries_of_first {before after : List String}
    (hbefore : ∀ l ∈ before, ¬ NoEntry l) (hline : NoEntry line) :
    readEntries number (before ++ line :: after) =
      .error (entryFailure (number + before.length) line) := by
  induction before generalizing number with
  | nil => simp [readEntries, readEntry?_eq_none_iff.2 hline]
  | cons first before ih =>
    obtain ⟨hfirst, hrest⟩ := List.forall_mem_cons.1 hbefore
    obtain ⟨entry, hentry⟩ := Option.ne_none_iff_exists'.1 (mt readEntry?_eq_none_iff.1 hfirst)
    have hnumber : number + 1 + before.length = number + (first :: before).length := by
      rw [List.length_cons]
      omega
    simp only [List.cons_append, readEntries, hentry, ih hrest, hnumber]
    rfl

/-- The lines of a sequence are those that may have entries. -/
theorem kept_iff {content : String} {kept : List String} (h : Lined content.toList lines) :
    Kept lines kept ↔ kept = entryLines content := by
  simp only [entryLines, Text.lines_eq_of_lined h, Kept]
  split
  · next hlast =>
    obtain ⟨front, rfl⟩ := List.getLast?_eq_some_iff.1 hlast
    rw [List.dropLast_concat]
    constructor
    · rintro (heq | ⟨rfl, hne⟩)
      · exact (List.append_cancel_right heq).symm
      · exact absurd hlast hne
    · rintro rfl
      exact .inl rfl
  · next hlast =>
    constructor
    · rintro (rfl | ⟨rfl, -⟩)
      · exact absurd (List.getLast?_concat ..) hlast
      · rfl
    · rintro rfl
      exact .inr ⟨rfl, hlast⟩

/-- A first line may have an entry, unless it is the last one and empty. -/
theorem kept_cons_iff {kept : List String} :
    Kept (line :: lines) kept ↔ (line = "" ∧ lines = []) ∧ kept = [] ∨
      ¬ (line = "" ∧ lines = []) ∧ ∃ rest, kept = line :: rest ∧ Kept lines rest := by
  cases kept with
  | nil => simp [Kept]
  | cons first rest =>
    have hsplit : (first :: rest).getLast? ≠ some "" ↔
        ¬ (first = "" ∧ rest = []) ∧ rest.getLast? ≠ some "" := by
      cases rest <;> simp
    constructor
    · rintro (heq | ⟨heq, hlast⟩)
      · cases heq
        exact .inr ⟨by simp, rest, rfl, .inl rfl⟩
      · cases heq
        exact .inr ⟨(hsplit.1 hlast).1, _, rfl, .inr ⟨rfl, (hsplit.1 hlast).2⟩⟩
    · rintro (⟨-, hnil⟩ | ⟨hne, _, heq, rfl | ⟨rfl, hlast⟩⟩)
      · cases hnil
      · cases heq
        exact .inl rfl
      · cases heq
        exact .inr ⟨rfl, hsplit.2 ⟨hne, hlast⟩⟩

/-- A line with an entry is not empty. -/
theorem Entry.On.ne_nil {line : List Char} (h : entry.On line) (hfits : entry.Fits) :
    line ≠ [] := by
  obtain ⟨front, core, back, rfl, hspelled, -⟩ := h
  simp [(hspelled.trims hfits).1]

/-- An entry stands on the first line of a text, whatever ends the line. -/
theorem exists_lined_of_on {line ending rest : List Char} (h : entry.On line) (hfits : entry.Fits)
    (hends : Ends ending) (hrest : Lined rest lines) :
    ∃ first : String, Lined (line ++ ending ++ rest) (first :: lines) ∧ entry.On first.toList := by
  obtain ⟨hfeed, core, htrims, hspelled⟩ := (Entry.on_iff hfits).1 h
  have hline : (String.ofList line).toList = line := String.toList_ofList
  rcases hends with rfl | rfl
  · by_cases hlast : line.getLast? = some '\r'
    · -- The carriage return is part of the line end and not of the blanks behind the entry.
      obtain ⟨front, rfl⟩ := List.getLast?_eq_some_iff.1 hlast
      have hfront : '\n' ∉ front := fun hmem => hfeed (List.mem_append_left _ hmem)
      refine ⟨String.ofList front, ?_, ?_⟩
      · simpa using @Lined.returnFeed (String.ofList front) _ _ (by simpa using hfront) hrest
      · rw [String.toList_ofList]
        exact (Entry.on_iff hfits).2
          ⟨hfront, core, (Text.trims_append_iff (by decide)).1 htrims, hspelled⟩
    · refine ⟨String.ofList line, ?_, by rwa [hline]⟩
      simpa using @Lined.feed (String.ofList line) _ _ (by rwa [hline]) (by rwa [hline]) hrest
  · refine ⟨String.ofList line, ?_, by rwa [hline]⟩
    simpa using @Lined.returnFeed (String.ofList line) _ _ (by rwa [hline]) hrest

/-- A text with entries has them on its lines. -/
theorem Written.exists_lined {text : List Char} {entries : List Entry} (h : Written text entries)
    (hfits : ∀ entry ∈ entries, entry.Fits) :
    ∃ lines kept, Lined text lines ∧ Kept lines kept ∧
      List.Forall₂ (fun line entry => entry.On line.toList) kept entries := by
  induction h with
  | nil => exact ⟨[], [], .nil, .inr ⟨rfl, by simp⟩, .nil⟩
  | empty hends =>
    refine ⟨[""], [], ?_, .inl rfl, .nil⟩
    rcases hends with rfl | rfl
    · exact @Lined.feed "" _ _ (by simp) (by simp) .nil
    · exact @Lined.returnFeed "" _ _ (by simp) .nil
  | @last line entry hon =>
    have hline : (String.ofList line).toList = line := String.toList_ofList
    have hne : String.ofList line ≠ "" := by simpa using hon.ne_nil (hfits entry (by simp))
    have hfeed := ((Entry.on_iff (hfits entry (by simp))).1 hon).1
    refine ⟨[String.ofList line], [String.ofList line], ?_, .inr ⟨rfl, by simpa using hne⟩,
      .cons (by rwa [hline]) .nil⟩
    simpa using Lined.last hne (by rwa [hline])
  | cons hon hends _ ih =>
    obtain ⟨hentry, hentries⟩ := List.forall_mem_cons.1 hfits
    obtain ⟨lines, kept, hlined, hkept, hall⟩ := ih hentries
    obtain ⟨first, hfirst, hon'⟩ := exists_lined_of_on hon hentry hends hlined
    refine ⟨first :: lines, first :: kept, hfirst, kept_cons_iff.2 (.inr ⟨?_, kept, rfl, hkept⟩),
      .cons hon' hall⟩
    rintro ⟨rfl, -⟩
    exact hon'.ne_nil hentry rfl

/-- A text whose lines have entries is a text with these entries. -/
theorem written_of_lined {text : List Char} {kept : List String} {entries : List Entry}
    (h : Lined text lines) (hkept : Kept lines kept)
    (hall : List.Forall₂ (fun line entry => entry.On line.toList) kept entries) :
    Written text entries := by
  induction h generalizing kept entries with
  | nil =>
    obtain hnil | ⟨rfl, -⟩ := hkept
    · simp at hnil
    · cases hall
      exact .nil
  | last hne _ =>
    obtain ⟨⟨hempty, -⟩, -⟩ | ⟨-, rest, rfl, hnil | ⟨rfl, -⟩⟩ := kept_cons_iff.1 hkept
    · exact absurd hempty hne
    · simp at hnil
    · obtain ⟨entry, _, hon, hnil, rfl⟩ := List.forall₂_cons_left_iff.1 hall
      cases hnil
      exact .last hon
  | @feed line rest _ _ _ hrest ih =>
    obtain ⟨⟨rfl, rfl⟩, rfl⟩ | ⟨-, _, rfl, hrest'⟩ := kept_cons_iff.1 hkept
    · cases hrest
      cases hall
      exact .empty (.inl rfl)
    · obtain ⟨entry, entries, hon, hall', rfl⟩ := List.forall₂_cons_left_iff.1 hall
      simpa using Written.cons hon (.inl rfl) (ih hrest' hall')
  | @returnFeed line rest _ _ hrest ih =>
    obtain ⟨⟨rfl, rfl⟩, rfl⟩ | ⟨-, _, rfl, hrest'⟩ := kept_cons_iff.1 hkept
    · cases hrest
      cases hall
      exact .empty (.inr rfl)
    · obtain ⟨entry, entries, hon, hall', rfl⟩ := List.forall₂_cons_left_iff.1 hall
      simpa using Written.cons hon (.inr rfl) (ih hrest' hall')

/-- The entries that are read of lines are the fitting ones that are written on them. -/
theorem forall₂_read_iff {entries : List Entry} (hfeed : ∀ line ∈ lines, '\n' ∉ line.toList) :
    List.Forall₂ (fun line entry => readEntry? line = some entry) lines entries ↔
      (∀ entry ∈ entries, entry.Fits) ∧
        List.Forall₂ (fun line entry => entry.On line.toList) lines entries := by
  induction lines generalizing entries with
  | nil => simp +contextual [List.forall₂_nil_left_iff]
  | cons line lines ih =>
    obtain ⟨hline, hlines⟩ := List.forall_mem_cons.1 hfeed
    cases entries with
    | nil => simp
    | cons entry entries =>
      simp only [List.forall₂_cons, readEntry?_eq_some_iff hline, ih hlines, List.forall_mem_cons]
      tauto

/-- Exactly the texts of entries that can be written are read, and to these entries. -/
theorem readSequence_eq_ok_iff {content : String} {entries : List Entry} :
    readSequence content = .ok entries ↔
      (∀ entry ∈ entries, entry.Fits) ∧ Written content.toList entries := by
  obtain ⟨lines, hlined⟩ := Text.exists_lined content.toList
  have hkept := (kept_iff hlined).2 rfl
  have hfeed : ∀ line ∈ entryLines content, '\n' ∉ line.toList := by
    intro line hline
    refine hlined.feed_notMem line ?_
    rcases hkept with heq | ⟨heq, -⟩ <;> simp [heq, hline]
  rw [readSequence, readEntries_eq_ok_iff, forall₂_read_iff hfeed]
  refine and_congr_right fun hfits => ⟨written_of_lined hlined hkept, fun hwritten => ?_⟩
  obtain ⟨lines', kept, hlined', hkept', hall⟩ := hwritten.exists_lined hfits
  rwa [(kept_iff hlined').1 hkept'] at hall

/-- No directive has a line feed in it. -/
theorem Written.feed_notMem {text : List Char} {entries : List Entry} (h : Written text entries) :
    ∀ line, .directive line ∈ entries → '\n' ∉ line.toList := by
  have hon {line : List Char} {directive : String} (h : (Entry.directive directive).On line) :
      '\n' ∉ directive.toList := by
    obtain ⟨front, _, back, rfl, ⟨⟩, -, -, hfeed⟩ := h
    exact fun hmem => hfeed (by simp [hmem])
  induction h with
  | nil | empty _ => simp
  | last hlast =>
    intro line hmem
    obtain rfl := List.mem_singleton.1 hmem
    exact hon hlast
  | cons hfirst _ _ ih =>
    intro line hmem
    rcases List.mem_cons.1 hmem with rfl | hmem
    · exact hon hfirst
    · exact ih line hmem

/-- A text of entries that can be written is read as these entries, whatever blanks stand around
them and whatever ends the lines, and no other text is read. It is not read exactly if, but for a
last line that is empty, some line is without an entry, and the failure tells the number of the
first such line. -/
theorem readSequence_exact :
    (∀ (content : String) (entries : List Entry), readSequence content = .ok entries ↔
      (∀ entry ∈ entries, entry.Fits) ∧ Written content.toList entries) ∧
    ∀ content : String, ∃ lines kept, Lined content.toList lines ∧ Kept lines kept ∧
      ((∃ failure, readSequence content = .error failure) ↔ ∃ line ∈ kept, NoEntry line) ∧
      ∀ before line after, kept = before ++ line :: after → (∀ l ∈ before, ¬ NoEntry l) →
        NoEntry line → ∃ failure, readSequence content = .error failure ∧
          failure.message = "Invalid sequence entry on line " ++ toString (before.length + 1) := by
  refine ⟨fun _ _ => readSequence_eq_ok_iff, fun content => ?_⟩
  obtain ⟨lines, hlined⟩ := Text.exists_lined content.toList
  refine ⟨lines, entryLines content, hlined, (kept_iff hlined).2 rfl, readEntries_eq_error_iff,
    fun before line after hkept hbefore hline => ⟨entryFailure (before.length + 1) line, ?_, rfl⟩⟩
  rw [readSequence, hkept, readEntries_of_first hbefore hline, Nat.add_comm]

/-- Blanks around an entry and a carriage return before a line feed do not count, but a blank line
does. -/
example : readSequence "\t+07 \r\n ##Attach\n\n" = .ok [.command 7, .directive "##Attach"] ∧
    readSequence "0\n\n1" = .error (entryFailure 2 "") := by decide

end BringUp.Script
