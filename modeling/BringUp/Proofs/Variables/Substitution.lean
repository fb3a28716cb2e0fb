import BringUp.Proofs.Text.Factoring
import BringUp.Proofs.Variables.Reference
import Mathlib.Data.List.Basic

/-!
# Replacing all references at once

Substitution replaces all the references that stand in a text in a single pass. What it puts into
their places is not read again, and what stands around them is kept, broken references included.

* `Variables.substitute_eq_fill`: what becomes of a text that is cut at its references.
* `Variables.substitute_around`: a reference is replaced wherever it stands.
* `Variables.substitute_congr`: which variables count.
* `Variables.substitute_simultaneous`: all of this for every text.
-/

namespace BringUp

namespace Variables

open Text (Factoring IsName RefersAt Unmarked)

/-- A name of word characters, by which a command may refer to a variable. -/
def IsWord (name : String) : Prop := IsName Unicode.isWord name.toList

/-- A reference to a name of word characters stands at a place of a text. -/
def ReferenceAt (text : String) (place : Nat) (name : String) : Prop :=
  RefersAt Unicode.isWord text.toList place name.toList

/-- What takes the place of a reference: the value of the variable, or nothing if there is none. -/
def valueOf (v : Variables) (name : String) : String := (v.get? name).getD ""

/-- Word characters mark no reference. -/
theorem unmarked_isWord : Unmarked Unicode.isWord := ⟨by decide, by decide⟩

variable {text name : String} {v v' : Variables}

/-- A text that is cut at its references has the values of the variables in their places. -/
theorem substitute_eq_fill {f : Factoring} (hf : f.Cuts Unicode.isWord text.toList)
    (v : Variables) :
    v.substitute text =
      String.ofList (f.fill fun name => (v.valueOf (String.ofList name)).toList) := by
  have hpieces : (f.fill fun name => (v.valueOf (String.ofList name)).toList) =
      f.pieces.flatMap v.expand := f.fill_eq _ v.expand (fun _ => rfl) fun _ => rfl
  rw [hpieces, substitute, hf.templatePieces_eq unmarked_isWord]

/-- A reference is replaced wherever it stands, and what stands around it is read by itself. -/
theorem substitute_around (hname : IsWord name) (v : Variables) (left right : String) :
    v.substitute (left ++ reference name ++ right) =
      v.substitute left ++ v.valueOf name ++ v.substitute right := by
  have htext : (left ++ reference name ++ right).toList =
      left.toList ++ ((Text.Piece.reference name.toList).spell ++ right.toList) := by
    simp [reference]
  apply String.toList_injective
  rw [substitute, htext, Text.templatePieces_around unmarked_isWord hname]
  simp [substitute, expand, valueOf]

/-- A text in which no reference stands is kept as it is. -/
theorem substitute_of_no_reference (h : ∀ place name, ¬ ReferenceAt text place name)
    (v : Variables) : v.substitute text = text := by
  have hplain (place : Nat) (name : List Char) :
      ¬ RefersAt Unicode.isWord text.toList place name := by
    simpa [ReferenceAt] using h place (String.ofList name)
  rw [substitute, Text.templatePieces_of_plain hplain]
  simp [List.flatMap_map, expand]

/-- Only those variables count to which a reference stands in the text. -/
theorem substitute_congr
    (h : ∀ place name, ReferenceAt text place name → v'.get? name = v.get? name) :
    v'.substitute text = v.substitute text := by
  refine congrArg String.ofList (List.flatMap_congr fun piece hpiece => ?_)
  cases piece with
  | char c => rfl
  | reference name =>
    -- A piece that is a reference stands in the text.
    obtain ⟨before, after, heq⟩ := List.append_of_mem hpiece
    have hrefers := Text.refersAt_of_templatePieces heq
    have hsame := h _ (String.ofList name) (by rwa [ReferenceAt, String.toList_ofList])
    rw [expand, expand, hsame]

/-- The references in a text never overlap, so that the text is cut at all of them in exactly one
way. Substitution keeps the literals of this cut and puts the value of its variable into the place
of each reference, or nothing if there is no such variable. So a reference is replaced wherever it
stands, whatever stands around it; a text without references is kept as it is; and only those
variables count to which a reference stands in the text. -/
theorem substitute_simultaneous (v : Variables) (text : String) :
    (∀ place name place' name', ReferenceAt text place name → ReferenceAt text place' name' →
      place = place' ∧ name = name' ∨ place + (reference name).length ≤ place' ∨
        place' + (reference name').length ≤ place) ∧
    (∃! f : Factoring, f.Cuts Unicode.isWord text.toList) ∧
    (∀ f : Factoring, f.Cuts Unicode.isWord text.toList → v.substitute text =
      String.ofList (f.fill fun name => (v.valueOf (String.ofList name)).toList)) ∧
    (∀ left name right, IsWord name → text = left ++ reference name ++ right →
      v.substitute text = v.substitute left ++ v.valueOf name ++ v.substitute right) ∧
    ((∀ place name, ¬ ReferenceAt text place name) → v.substitute text = text) ∧
    ∀ v' : Variables, (∀ place name, ReferenceAt text place name → v'.get? name = v.get? name) →
      v'.substitute text = v.substitute text := by
  refine ⟨?_, Text.existsUnique_cuts unmarked_isWord _, fun f hf => substitute_eq_fill hf v, ?_,
    fun hnone => substitute_of_no_reference hnone v, fun v' => substitute_congr⟩
  · intro place name place' name' h h'
    have hlength (name : String) : (reference name).length = name.toList.length + 3 := by
      rw [reference, String.length_ofList]
      simp [Text.Piece.spell]
    have hsame : name = name' ↔ name.toList = name'.toList := String.toList_inj.symm
    rw [hlength, hlength, hsame]
    exact h.eq_or_disjoint unmarked_isWord h'
  · rintro left name right hname rfl
    exact substitute_around hname v left right

/-- An inner reference is replaced, and a value that holds a reference, or makes one together with
what stands around it, is not read again. -/
example :
    let v : Variables := Table.setAll [("x", "$\x7bx\x7d"), ("y", "x\x7d")] {}
    v.substitute "$\x7ba$\x7bx\x7d\x7d $\x7b$\x7by\x7d $$\x7bx\x7d $\x7bx" =
      "$\x7ba$\x7bx\x7d\x7d $\x7bx\x7d $$\x7bx\x7d $\x7bx" := by decide

end Variables

end BringUp
