import BringUp.Files.Tree
import Mathlib.Tactic.SplitIfs

/-!
# What a file holds

A file holds what was written to it last. Its path leads to the same place before and after: a
file stands where no directory was, so that no walk through directories had come there.

* `FileTree.node?_put_self`, `FileTree.node?_put_of_ne`: putting something changes one place only.
* `FileTree.locate_put`: a path that leads somewhere leads there still.
* `FileTree.readBytes_of_write`: what was written is read.
-/

namespace BringUp.FileTree

variable {place : List String} {t : FileTree}

/-- What was put at a place stands there. -/
theorem node?_put_self (hplace : ¬ isGiven place = true) (node : FileNode) (t : FileTree) :
    (t.put place node).node? place = some node := by
  have hnone : (t.entries.filter (·.1 ≠ place)).lookup place = none := by
    rw [List.lookup_eq_none_iff]
    intro entry hmem
    have hne : entry.1 ≠ place := by simpa using (List.mem_filter.1 hmem).2
    exact bne_iff_ne.2 hne.symm
  rw [node?, if_neg hplace, put, List.lookup_append, hnone]
  simp

/-- Putting something changes one place only. -/
theorem node?_put_of_ne {other : List String} (h : other ≠ place) (node : FileNode)
    (t : FileTree) : (t.put place node).node? other = t.node? other := by
  have hplace : (other == place) = false := beq_eq_false_iff_ne.2 h
  -- What is dropped from the entries stood at the other place.
  have hkept (entries : List (List String × FileNode)) :
      (entries.filter (·.1 ≠ place)).lookup other = entries.lookup other := by
    induction entries with
    | nil => rfl
    | cons entry rest ih =>
      by_cases hentry : entry.1 = place
      · rw [List.filter_cons_of_neg (by simp [hentry]), ih, List.lookup_cons, hentry, hplace]
      · rw [List.filter_cons_of_pos (by simp [hentry]), List.lookup_cons, List.lookup_cons, ih]
  rw [node?, node?, put, List.lookup_append, hkept]
  simp [List.lookup_cons, hplace]

/-! ### Paths -/

/-- A directory that could be entered can be entered still. -/
theorem enter_put (hplace : t.node? place ≠ some .directory) (node : FileNode)
    {start dest : List String} {name : String} (h : t.enter start name = .ok dest) :
    (t.put place node).enter start name = .ok dest := by
  unfold enter at h ⊢
  split_ifs at h ⊢ with hidle hup hlong
  · exact h
  · exact h
  · cases hnode : t.node? (start ++ [name]) with
    | none => simp [hnode] at h
    | some there =>
      cases there with
      | file _ => simp [hnode] at h
      | directory =>
        -- A directory stands there, so that this is another place.
        have hne : start ++ [name] ≠ place := by
          rintro rfl
          exact hplace hnode
        rw [node?_put_of_ne hne, hnode]
        rwa [hnode] at h

/-- A walk through directories leads to where it led. -/
theorem walk_put (hplace : t.node? place ≠ some .directory) (node : FileNode)
    {start dest : List String} {names : List String} (h : t.walk start names = .ok dest) :
    (t.put place node).walk start names = .ok dest := by
  induction names generalizing start with
  | nil => exact h
  | cons name rest ih =>
    rw [walk] at h ⊢
    cases henter : t.enter start name with
    | error e => simp [henter] at h
    | ok next =>
      rw [henter] at h
      rw [enter_put hplace node henter]
      exact ih h

/-- A path that leads somewhere leads there still. -/
theorem locate_put (hplace : t.node? place ≠ some .directory) (node : FileNode) {path : String}
    {found : List String × String} (h : t.locate path = .ok found) :
    (t.put place node).locate path = .ok found := by
  unfold locate at h ⊢
  split_ifs at h ⊢
  simp only at h ⊢
  cases hwalk : t.walk (origin path) (Path.parts (Path.dropSlashes path)).dropLast with
  | error e => simp [hwalk] at h
  | ok dest =>
    rw [walk_put hplace node hwalk]
    rwa [hwalk] at h

/-- What was written to a file is read from it. -/
theorem readBytes_of_write {path : String} {bytes : List UInt8} {t' : FileTree}
    (h : t.write path bytes = .ok t') : t'.readBytes path = .ok bytes := by
  unfold write at h
  split at h
  · cases h
  · rename_i dir name hlocate
    split_ifs at h with hname hlong
    have hput : t.node? (dir ++ [name]) ≠ some .directory ∧
        t' = t.put (dir ++ [name]) (.file bytes) := by
      cases hnode : t.node? (dir ++ [name]) with
      | none =>
        rw [hnode] at h
        cases h
        exact ⟨nofun, rfl⟩
      | some there =>
        cases there with
        | file _ =>
          rw [hnode] at h
          cases h
          exact ⟨nofun, rfl⟩
        | directory =>
          rw [hnode] at h
          cases h
    obtain ⟨hplace, rfl⟩ := hput
    have hgiven : ¬ isGiven (dir ++ [name]) = true := by
      intro hgiven
      exact hplace (by rw [node?, if_pos hgiven])
    simp only [Bool.or_eq_true, not_or, Bool.not_eq_true] at hname
    obtain ⟨hnamed, hslash⟩ := hname
    rw [readBytes, locate_put hplace _ hlocate]
    simp only
    rw [hnamed, if_neg Bool.false_ne_true, if_neg hlong, node?_put_self hgiven]
    simp [hslash]

end BringUp.FileTree
