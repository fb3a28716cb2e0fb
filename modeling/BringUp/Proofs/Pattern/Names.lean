import BringUp.Pattern

/-!
# The names of groups

A pattern names its groups by letters, numbers, low lines, dots and brackets. The parser meets a
name in one place only, where it opens a group that captures, and checks it there; nothing that it
does afterwards changes a name. So whatever stands in the text of a pattern, its names are of this
form, and the characters by which commands mark a reference or an operator are in none of them.

* `Parser.State.WellNamed`: the names read so far have the form of names.
* `named_of_compile`: each name of a pattern is for one of its groups.
* `isGroupName_of_captures?`: so have the names that a match gives.
* `nodup_of_captures?`: a match gives a text to each name once.
-/

namespace BringUp.Pattern

/-- A text that can be the name of a group: a character that may start a name, then characters
that may stand in one. -/
def IsGroupName (name : String) : Prop :=
  ∃ c more, name.toList = c :: more ∧ Parser.isNameChar true c = true ∧
    more.all (Parser.isNameChar false) = true

namespace IsGroupName

variable {name : String}

/-- A name is not empty. -/
theorem ne_nil (h : IsGroupName name) : name.toList ≠ [] := by
  obtain ⟨c, more, hname, -⟩ := h
  simp [hname]

/-- What may start a name may also stand in it later. -/
theorem isNameChar_of_first {c : Char} (h : Parser.isNameChar true c = true) :
    Parser.isNameChar false c = true := by
  simp only [Parser.isNameChar, Unicode.isAlphabetic, Unicode.isAlphanumeric, Char.isAlphanum,
    if_true, Bool.false_eq_true, if_false, Bool.or_eq_true, beq_iff_eq] at h ⊢
  rcases h with h | h
  · simp [h]
  · by_cases hc : c.toNat < 128 <;> simp_all

/-- All characters of a name may stand in names. -/
theorem all_isNameChar (h : IsGroupName name) :
    name.toList.all (Parser.isNameChar false) = true := by
  obtain ⟨c, more, hname, hfirst, hmore⟩ := h
  simp [hname, isNameChar_of_first hfirst, hmore]

/-- A character that may not stand in names is in none. -/
theorem notMem {c : Char} (h : IsGroupName name) (hc : Parser.isNameChar false c = false) :
    c ∉ name.toList := by
  intro hmem
  have := List.all_eq_true.1 h.all_isNameChar c hmem
  simp [hc] at this

end IsGroupName

namespace Parser

/-- Whatever a reader gives has a property. -/
def Yields {ε α : Type} (P : α → Prop) (x : Except ε α) : Prop := ∀ a, x = .ok a → P a

namespace Yields

variable {ε α β : Type} {P : α → Prop} {Q : β → Prop}

theorem ok {a : α} (h : P a) : Yields P (.ok a : Except ε α) := by
  rintro _ ⟨⟩
  exact h

theorem error {e : ε} : Yields P (.error e : Except ε α) := by
  rintro _ ⟨⟩

/-- A reader that starts with another one: the rest may use what the first one gives. -/
theorem bind {x : Except ε α} {f : α → Except ε β} (hx : Yields P x)
    (hf : ∀ a, P a → Yields Q (f a)) : Yields Q (x >>= f) := by
  cases x with
  | error e => exact error
  | ok a => exact hf a (hx a rfl)

/-- The rest of a reader may do without what the first part gives. -/
theorem of_any {x : Except ε α} {f : α → Except ε β} (hf : ∀ a, Yields Q (f a)) :
    Yields Q (x >>= f) :=
  bind (P := fun _ => True) (fun _ _ => trivial) fun a _ => hf a

end Yields

/-- What is read for a name is a name. -/
theorem readName_yields (cs : List Char) :
    Yields (fun read => IsGroupName read.1) (readName cs) := by
  unfold readName
  dsimp only
  split
  · next rest c more _ hname =>
    split
    · next hchars =>
      obtain ⟨hfirst, hmore⟩ := Bool.and_eq_true_iff.1 hchars
      exact .ok ⟨c, more, by simpa using hname, hfirst, hmore⟩
    · exact .error
  · exact .error

namespace State

variable {st : State}

/-- The names read so far have the form of names, and each is for a group that was opened. -/
def WellNamed (st : State) : Prop :=
  ∀ entry ∈ st.names, IsGroupName entry.1 ∧ entry.2 ≤ st.captures

theorem WellNamed.push (h : st.WellNamed) (item : Item) : Yields WellNamed (st.push item) :=
  .of_any fun _ => .ok h

theorem WellNamed.endBranch (h : st.WellNamed) : Yields WellNamed st.endBranch :=
  .of_any fun _ => .ok h

theorem WellNamed.openGroup (h : st.WellNamed) (flags : Flags) (capture : Option Nat) :
    Yields WellNamed (st.openGroup flags capture) := by
  unfold State.openGroup
  split
  · exact .error
  · exact .ok h

/-- A group that captures may add a name to those before. -/
theorem WellNamed.openCapture (h : st.WellNamed) {name : Option String}
    (hname : ∀ n ∈ name, IsGroupName n) : Yields WellNamed (st.openCapture name) := by
  refine WellNamed.openGroup (fun entry hentry => ?_) _ _
  rcases List.mem_append.1 hentry with hnew | hold
  · obtain ⟨n, hn, rfl⟩ := List.mem_map.1 hnew
    exact ⟨hname n (Option.mem_toList.1 hn), Nat.le_refl _⟩
  · exact ⟨(h entry hold).1, Nat.le_succ_of_le (h entry hold).2⟩

theorem WellNamed.closeGroup (h : st.WellNamed) : Yields WellNamed st.closeGroup := by
  unfold State.closeGroup
  split
  · exact .error
  · refine .of_any fun _ => .of_any fun _ => WellNamed.push ?_ _
    exact h

theorem WellNamed.repeatLast (h : st.WellNamed) (min : Nat) (max : Option Nat) (greedy : Bool) :
    Yields WellNamed (st.repeatLast min max greedy) := by
  unfold State.repeatLast
  split
  · split
    · exact .error
    · refine WellNamed.push ?_ _
      exact h
  · exact .error

/-- Whatever an opening parenthesis starts, the names stay names. -/
theorem WellNamed.readGroup (h : st.WellNamed) (cs : List Char) :
    Yields (fun read => read.1.WellNamed) (readGroup st cs) := by
  unfold Parser.readGroup
  split
  -- What is no group is left aside. Only the two forms with an angle bracket have a name.
  all_goals try exact .error
  · exact (readName_yields _).bind fun _ hname =>
      (h.openCapture (by simpa using hname)).bind fun _ h => .ok h
  · exact (readName_yields _).bind fun _ hname =>
      (h.openCapture (by simpa using hname)).bind fun _ h => .ok h
  · refine .of_any fun read => ?_
    split
    · exact (h.openGroup _ _).bind fun _ h => .ok h
    · refine Yields.bind (WellNamed.push ?_ _) fun _ h => .ok h
      exact h
  · exact (h.openCapture (by simp)).bind fun _ h => .ok h

/-- The names stay names to the end of the pattern, by induction on the steps of the reader: one
case for each thing that can come next. -/
theorem WellNamed.readFrom (fuel : Nat) (h : st.WellNamed) (cs : List Char) :
    Yields WellNamed (readFrom fuel st cs) := by
  induction fuel generalizing st cs with
  | zero => exact .ok h
  | succ fuel ih =>
    unfold Parser.readFrom
    split
    · exact .ok h
    · exact (h.readGroup _).bind fun _ h => ih h _
    · exact h.closeGroup.bind fun _ h => ih h _
    · exact h.endBranch.bind fun _ h => ih h _
    · exact .of_any fun _ => (h.push _).bind fun _ h => ih h _
    · exact (h.repeatLast _ _ _).bind fun _ h => ih h _
    · exact (h.repeatLast _ _ _).bind fun _ h => ih h _
    · exact (h.repeatLast _ _ _).bind fun _ h => ih h _
    · exact .of_any fun _ => (h.repeatLast _ _ _).bind fun _ h => ih h _
    · exact .of_any fun _ => (h.push _).bind fun _ h => ih h _
    · exact .of_any fun _ => (h.push _).bind fun _ h => ih h _
    · exact .of_any fun _ => (h.push _).bind fun _ h => ih h _
    · exact .of_any fun _ => .of_any fun _ => (h.push _).bind fun _ h => ih h _
    · exact .of_any fun _ => (h.push _).bind fun _ h => ih h _

end State

/-- The names of a pattern that was read are names, each for a group of the pattern. -/
theorem parse_yields (source : String) :
    Yields (fun parsed => ∀ entry ∈ parsed.names, IsGroupName entry.1 ∧
      entry.2 ≤ parsed.captures) (parse source) := by
  have hempty : ({} : State).WellNamed := by simp [State.WellNamed]
  refine (hempty.readFrom _ _).bind fun st h => ?_
  split
  · exact .error
  -- Closing the whole pattern adds no name, and the names are only put into their order.
  refine .of_any fun _ => .of_any fun _ => ?_
  dsimp only
  split
  · exact .ok fun entry hentry => h entry (List.mem_reverse.1 hentry)
  · exact .error

end Parser

variable {source text : String} {p : Pattern} {groups : List (String × String)}

/-- A pattern that comes out of a compilation is its result. -/
theorem compile_of_toOption (h : (compile source).toOption = some p) : compile source = .ok p := by
  cases hc : compile source <;> simp_all [Except.toOption]

/-- The names of a compiled pattern are names, each for a group of the pattern. -/
theorem named_of_compile (h : compile source = .ok p) :
    ∀ entry ∈ p.names, IsGroupName entry.1 ∧ entry.2 ≤ p.captures := by
  refine ((Parser.parse_yields source).bind fun parsed hnames => ?_ :
    Parser.Yields (fun p => ∀ entry ∈ p.names, IsGroupName entry.1 ∧ entry.2 ≤ p.captures)
      (compile source)) p h
  split
  · exact .error
  · exact .ok hnames

/-- The names of a compiled pattern are names. -/
theorem isGroupName_of_compile (h : compile source = .ok p) :
    ∀ entry ∈ p.names, IsGroupName entry.1 := fun entry hentry =>
  (named_of_compile h entry hentry).1

/-- A match gives texts to names of the pattern. -/
theorem sublist_of_captures? (h : p.captures? text = some groups) :
    (groups.map Prod.fst).Sublist (p.names.map Prod.fst) := by
  obtain ⟨slots, -, rfl⟩ := Option.map_eq_some_iff.1 h
  induction p.names with
  | nil => simp
  | cons entry names ih =>
    simp only [List.filterMap_cons]
    split
    · exact .trans ih (List.sublist_cons_self _ _)
    · next group hgroup =>
      obtain ⟨found, -, rfl⟩ := Option.map_eq_some_iff.1 hgroup
      simpa using ih

/-- The groups that took part in a match have the form of names. -/
theorem isGroupName_of_captures? (hp : compile source = .ok p)
    (h : p.captures? text = some groups) : ∀ group ∈ groups, IsGroupName group.1 := by
  intro group hgroup
  have hmem := (sublist_of_captures? h).mem (List.mem_map_of_mem hgroup)
  obtain ⟨entry, hentry, hname⟩ := List.mem_map.1 hmem
  exact hname ▸ isGroupName_of_compile hp entry hentry

/-- A match gives a text to each name once. -/
theorem nodup_of_captures? (h : p.captures? text = some groups) :
    (groups.map Prod.fst).Nodup :=
  (sublist_of_captures? h).nodup p.distinct

end BringUp.Pattern
