import BringUp.Proofs.Pattern.Names
import BringUp.Variables

/-!
# What a capture does to the variables

A text is matched against a pattern, and the named groups that took part in the match become
variables: each of them has a part of the text as its value. No other variable changes, and none is
removed.

* `Pattern.of_mem_captures?`: a group has a part of the text.
* `Variables.Captures`: what a capture may do.
* `Variables.captures_of_capture?`: it does no more.
-/

namespace BringUp

namespace Pattern

variable {text : String} {p : Pattern} {groups : List (String × String)}

/-- A group that took part in a match has a part of the text. -/
theorem infix_of_groupText? {chars : Array Char} {slots : Slots} {index : Nat} {value : String}
    (h : groupText? chars slots index = some value) : value.toList <:+: chars.toList := by
  unfold groupText? at h
  obtain ⟨first, -, h⟩ := Option.bind_eq_some_iff.1 h
  obtain ⟨last, -, h⟩ := Option.bind_eq_some_iff.1 h
  cases h
  rw [String.toList_ofList, Array.toList_extract, List.extract_eq_take_drop]
  exact (List.take_prefix _ _).isInfix.trans (List.drop_suffix _ _).isInfix

/-- A match gives parts of the text to names of the pattern. -/
theorem of_mem_captures? (h : p.captures? text = some groups) {group : String × String}
    (hgroup : group ∈ groups) :
    group.1 ∈ p.names.map Prod.fst ∧ group.2.toList <:+: text.toList := by
  refine ⟨(sublist_of_captures? h).mem (List.mem_map_of_mem hgroup), ?_⟩
  obtain ⟨slots, -, rfl⟩ := Option.map_eq_some_iff.1 h
  obtain ⟨entry, -, hentry⟩ := List.mem_filterMap.1 hgroup
  obtain ⟨value, hvalue, rfl⟩ := Option.map_eq_some_iff.1 hentry
  simpa using infix_of_groupText? hvalue

end Pattern

namespace Table

variable {α : Type} {entries : List (String × α)} {name : String} {value : α} {t : Table α}

/-- After names are set, a value is one that was set or an earlier one. -/
theorem mem_or_of_get?_setAll (h : (t.setAll entries).get? name = some value) :
    (name, value) ∈ entries ∨ t.get? name = some value := by
  induction entries generalizing t with
  | nil => exact .inr h
  | cons entry entries ih =>
    rcases ih h with hmem | hget
    · exact .inl (List.mem_cons_of_mem _ hmem)
    · by_cases hname : name = entry.1
      · rw [hname, get?_set_self] at hget
        exact .inl (by rw [hname, ← Option.some.inj hget]; exact List.mem_cons_self)
      · rw [get?_set_of_ne hname] at hget
        exact .inr hget

/-- No name is removed when others are set. -/
theorem isSome_get?_setAll (h : (t.get? name).isSome) : ((t.setAll entries).get? name).isSome := by
  induction entries generalizing t with
  | nil => exact h
  | cons entry entries ih =>
    refine ih ?_
    by_cases hname : name = entry.1
    · rw [hname, get?_set_self]
      rfl
    · rwa [get?_set_of_ne hname]

end Table

namespace Variables

/-- The variables after something is captured from a text: a name of the pattern may have a part of
the text as its value, all others are as before, and none is removed. -/
structure Captures (p : Pattern) (text : String) (v v' : Variables) : Prop where
  /-- Where a value comes from. -/
  source : ∀ name value, v'.get? name = some value → v.get? name = some value ∨
    name ∈ p.names.map Prod.fst ∧ value.toList <:+: text.toList
  /-- What has a value keeps one. -/
  keeps : ∀ name, (v.get? name).isSome → (v'.get? name).isSome

/-- A match captures what it gives to the names of the pattern. -/
theorem captures_of_capture? {p : Pattern} {text : String} {v v' : Variables}
    (h : v.capture? p text = some v') : v.Captures p text v' := by
  obtain ⟨groups, hgroups, rfl⟩ := Option.map_eq_some_iff.1 h
  refine ⟨fun name value hvalue => ?_, fun name => Table.isSome_get?_setAll⟩
  rcases Table.mem_or_of_get?_setAll hvalue with hmem | hget
  · exact .inr (Pattern.of_mem_captures? hgroups hmem)
  · exact .inl hget

end Variables

end BringUp
