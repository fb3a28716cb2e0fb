/-!
# Cutting a text at a separator

`splitOnce? sep` cuts a text at the first place where `sep` stands, and fails if it stands nowhere.
The main statements are that nothing is lost (`eq_append_of_splitOnce?`) and what `dropPrefix?`
removes (`dropPrefix?_eq_some_iff`).
-/

namespace BringUp.Text

/-- What follows `front` at the start of a text, if the text starts so. -/
def dropPrefix? : List Char → List Char → Option (List Char)
  | [], cs => some cs
  | _ :: _, [] => none
  | p :: ps, c :: cs => if p = c then dropPrefix? ps cs else none

/-- The text starts with `front` exactly when what follows completes it. -/
theorem dropPrefix?_eq_some_iff {front cs rest : List Char} :
    dropPrefix? front cs = some rest ↔ cs = front ++ rest := by
  induction front generalizing cs with
  | nil => simp [dropPrefix?]
  | cons p ps ih =>
    cases cs with
    | nil => simp [dropPrefix?]
    | cons c cs => by_cases h : p = c <;> simp [dropPrefix?, h, ih, eq_comm]

/-- The parts before and after the first place where `sep` stands. -/
def splitOnce? (sep : List Char) : List Char → Option (List Char × List Char)
  | [] => if sep.isEmpty then some ([], []) else none
  | c :: cs =>
    match dropPrefix? sep (c :: cs) with
    | some rest => some ([], rest)
    | none => (splitOnce? sep cs).map fun (left, right) => (c :: left, right)

/-- Cutting loses nothing but the separator. -/
theorem eq_append_of_splitOnce? {sep cs left right : List Char}
    (h : splitOnce? sep cs = some (left, right)) : cs = left ++ sep ++ right := by
  induction cs generalizing left with
  | nil =>
    simp only [splitOnce?] at h
    split at h <;> simp_all
  | cons c cs ih =>
    simp only [splitOnce?] at h
    split at h
    · next rest hrest => simp_all [dropPrefix?_eq_some_iff]
    · next =>
      obtain ⟨⟨l, r⟩, hlr, heq⟩ := Option.map_eq_some_iff.1 h
      simp only [Prod.mk.injEq] at heq
      obtain ⟨rfl, rfl⟩ := heq
      simpa using ih hlr

end BringUp.Text
