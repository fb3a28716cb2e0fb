/-!
# Tables

A table gives values to names. Setting a name replaces the value it had, and a name once set stays.

* `get?_set_self`, `get?_set_of_ne`: setting a name changes that name only.
* `get?_setAll_of_mem`, `get?_setAll_of_notMem`: setting distinct names changes these only.
-/

namespace BringUp

/-- Sets a name in a list of entries: in its place if it is there, else at the end. -/
def setEntry {α : Type} (name : String) (value : α) : List (String × α) → List (String × α)
  | [] => [(name, value)]
  | (key, old) :: rest =>
    if key = name then (key, value) :: rest else (key, old) :: setEntry name value rest

/-- Values by name. -/
structure Table (α : Type) where
  /-- The names, each once, with their values. -/
  entries : List (String × α) := []
  deriving Inhabited

namespace Table

variable {α : Type}

/-- The value of a name. -/
def get? (name : String) (t : Table α) : Option α := t.entries.lookup name

/-- Whether a name has a value. -/
def contains (name : String) (t : Table α) : Bool := (t.get? name).isSome

/-- Gives a name a value. -/
def set (name : String) (value : α) (t : Table α) : Table α :=
  { entries := setEntry name value t.entries }

/-- Sets the names of a list, one after the other. -/
def setAll (entries : List (String × α)) (t : Table α) : Table α :=
  entries.foldl (fun t entry => t.set entry.1 entry.2) t

/-- The number of names. -/
def size (t : Table α) : Nat := t.entries.length

/-- A name has the value it was set to. -/
@[simp]
theorem get?_set_self (name : String) (value : α) (t : Table α) :
    (t.set name value).get? name = some value := by
  obtain ⟨entries⟩ := t
  simp only [get?, set]
  induction entries with
  | nil => simp [setEntry]
  | cons entry rest ih =>
    obtain ⟨key, old⟩ := entry
    by_cases h : key = name
    · simp [setEntry, h]
    · simp [setEntry, h, List.lookup_cons, beq_eq_false_iff_ne.2 (Ne.symm h), ih]

/-- Setting a name changes no other. -/
theorem get?_set_of_ne {name other : String} (h : other ≠ name) (value : α) (t : Table α) :
    (t.set name value).get? other = t.get? other := by
  obtain ⟨entries⟩ := t
  simp only [get?, set]
  induction entries with
  | nil => simp [setEntry, List.lookup_cons, beq_eq_false_iff_ne.2 h]
  | cons entry rest ih =>
    obtain ⟨key, old⟩ := entry
    by_cases hk : key = name
    · subst hk
      simp [setEntry, List.lookup_cons, beq_eq_false_iff_ne.2 h]
    · simp [setEntry, hk, List.lookup_cons, ih]

/-- Setting names changes no other. -/
theorem get?_setAll_of_notMem {entries : List (String × α)} {name : String}
    (h : name ∉ entries.map Prod.fst) (t : Table α) :
    (t.setAll entries).get? name = t.get? name := by
  induction entries generalizing t with
  | nil => rfl
  | cons entry rest ih =>
    simp only [List.map_cons, List.mem_cons, not_or] at h
    exact (ih h.2 (t.set entry.1 entry.2)).trans (get?_set_of_ne h.1 entry.2 t)

/-- Each of several distinct names has the value it was set to. -/
theorem get?_setAll_of_mem {entries : List (String × α)} {name : String} {value : α}
    (distinct : (entries.map Prod.fst).Nodup) (h : (name, value) ∈ entries) (t : Table α) :
    (t.setAll entries).get? name = some value := by
  induction entries generalizing t with
  | nil => simp at h
  | cons entry rest ih =>
    obtain ⟨hfresh, hrest⟩ := List.nodup_cons.1 distinct
    rcases List.mem_cons.1 h with rfl | hmem
    · exact (get?_setAll_of_notMem hfresh _).trans (get?_set_self name value t)
    · exact ih hrest hmem (t.set entry.1 entry.2)

end Table

end BringUp
