import BringUp.Function.Builtin
import BringUp.Proofs.Engine.Account
import BringUp.Proofs.Step.Reading
import BringUp.Proofs.Text.Decimal
import BringUp.Proofs.Text.Trimming
import Mathlib.Algebra.Group.Int.Defs
import Mathlib.Algebra.Group.Nat.Defs

/-!
# The distance between two whole numbers

The function `absdiff` takes two texts that tell whole numbers of 64 bits, and gives their distance
in decimal digits. The distance of the two numbers that lie farthest apart is no whole number of 64
bits itself, but it is given all the same. Any other arguments are refused. All this takes no time.

* `Function.Tells`: a text tells a whole number of 64 bits.
* `Function.absdiff_eq_ok_iff`: what is given, and when.
* `Function.distance_le`, `Function.distance_eq_iff`: how far two such numbers can lie apart.
* `Execution.ends_exact_iff`: a call with an exact text behind it.
* `Function.distance_exact`: all of this, and what it means for a line that checks a distance.
-/

namespace BringUp

/-- A call that should give an exact text ends well if the function gives this text. -/
theorem Execution.ends_exact_iff {tools : Tools} {x : Execution} {f : Function} {expected : String}
    (hf : tools.functions.get? x.function = some f) (hexpect : x.expect = .exact expected)
    (r : Rig) : (∃ flow, (x.run tools r).1 = .ok flow) ↔
      (f r.trace x.arguments).result = .ok expected := by
  unfold run
  rw [hf, hexpect]
  simp only [Rig.call]
  cases (f r.trace x.arguments).result with
  | error failure => simp
  | ok result =>
    by_cases hresult : result = expected
    · simp [Expectation.checkCapturing, Expectation.capture?, hresult]
    · simp [Expectation.checkCapturing, Expectation.capture?, hresult]

namespace Function

/-! ### Texts that tell numbers -/

/-- A whole number of 64 bits, one of which is for the sign. -/
def IsInt64 (a : Int) : Prop := -2 ^ 63 ≤ a ∧ a < 2 ^ 63

/-- A text tells a whole number of 64 bits. There may be a sign and leading zeros, and any blanks
around them. -/
structure Tells (argument : String) (a : Int) : Prop where
  /-- Without the blanks around it, the text is a numeral that may have a sign. -/
  numeral : ∃ core, Text.Trims argument.toList core ∧ Text.SignedNumeral core a
  /-- The number is in range. -/
  inRange : IsInt64 a

/-- An argument is read if it tells a number. -/
theorem readInteger_eq_ok_iff {argument : String} {a : Int} :
    readInteger argument = .ok a ↔ Tells argument a := by
  have hread : Text.readInt Text.signBound64 (Text.trimChars argument.toList) = .ok a ↔
      Tells argument a := by
    rw [Text.readInt_eq_ok_iff (by decide)]
    constructor
    · rintro ⟨hnumeral, hlow, hhigh⟩
      exact ⟨⟨_, Text.trims_trimChars _, hnumeral⟩, hlow, hhigh⟩
    · rintro ⟨⟨core, htrims, hnumeral⟩, hlow, hhigh⟩
      rw [Text.trimChars_eq_iff.2 htrims]
      exact ⟨hnumeral, hlow, hhigh⟩
  rw [← hread, readInteger]
  cases Text.readInt Text.signBound64 (Text.trimChars argument.toList) <;> simp

/-- The decimal digits of a number tell it. -/
theorem tells_toString {a : Int} (ha : IsInt64 a) : Tells (toString a) a :=
  have hnumeral := Text.signedNumeral_toString a
  ⟨⟨_, hnumeral.trims, hnumeral⟩, ha⟩

/-! ### How far two numbers can lie apart -/

variable {a b : Int}

/-- The distance of two numbers of 64 bits fits into 64 bits without a sign. -/
theorem distance_le (ha : IsInt64 a) (hb : IsInt64 b) : (a - b).natAbs ≤ 2 ^ 64 - 1 := by
  unfold IsInt64 at ha hb
  omega

/-- It takes up all of them only between the least number and the greatest. -/
theorem distance_eq_iff (ha : IsInt64 a) (hb : IsInt64 b) :
    (a - b).natAbs = 2 ^ 64 - 1 ↔
      a = -2 ^ 63 ∧ b = 2 ^ 63 - 1 ∨ a = 2 ^ 63 - 1 ∧ b = -2 ^ 63 := by
  unfold IsInt64 at ha hb
  omega

/-! ### The function -/

/-- The distance of two arguments is given if both are read. -/
theorem absdiff_pair_eq_ok_iff {t : Trace} {x y text : String} :
    (absdiff t [x, y]).result = .ok text ↔ ∃ a b, readInteger x = .ok a ∧ readInteger y = .ok b ∧
      text = toString (a - b).natAbs := by
  simp only [absdiff, instant]
  cases readInteger x with
  | error e => simp
  | ok a =>
    cases readInteger y with
    | error e => simp
    | ok b => simp [eq_comm]

/-- The distance is given in decimal digits if there are two arguments that tell numbers, and
nothing else is ever given. -/
theorem absdiff_eq_ok_iff {t : Trace} {arguments : List String} {text : String} :
    (absdiff t arguments).result = .ok text ↔ ∃ x y a b, arguments = [x, y] ∧ Tells x a ∧
      Tells y b ∧ Text.Decimal text.toList (a - b).natAbs := by
  constructor
  · intro h
    -- A result is only given for two arguments.
    obtain ⟨x, y, rfl⟩ : ∃ x y, arguments = [x, y] := by
      simp only [absdiff, instant] at h
      split at h
      · exact ⟨_, _, rfl⟩
      · cases h
    obtain ⟨a, b, hx, hy, rfl⟩ := absdiff_pair_eq_ok_iff.1 h
    exact ⟨x, y, a, b, rfl, readInteger_eq_ok_iff.1 hx, readInteger_eq_ok_iff.1 hy,
      Text.decimal_toString _⟩
  · rintro ⟨x, y, a, b, rfl, hx, hy, htext⟩
    exact absdiff_pair_eq_ok_iff.2 ⟨a, b, readInteger_eq_ok_iff.2 hx, readInteger_eq_ok_iff.2 hy,
      Text.eq_toString_of_decimal htext⟩

/-! ### Checking a distance -/

/-- A word that can be an argument of a call with an exact text behind it. -/
structure IsArgument (word : String) : Prop where
  /-- The word is there. -/
  ne_empty : word ≠ ""
  /-- It has no blank. -/
  noBlank : ∀ c ∈ word.toList, Text.isBlank c = false
  /-- It has no colon, which would end the call. -/
  noColon : ':' ∉ word.toList
  /-- It has no bar, behind which a pattern would be read. -/
  noBar : '|' ∉ word.toList

variable {x y z : String}

/-- The check of a distance is read back. -/
theorem read_absdiff (hx : IsArgument x) (hy : IsArgument y) (hz : '|' ∉ z.toList) :
    Execution.read ("absdiff " ++ x ++ " " ++ y ++ ":" ++ z) =
      .ok { function := "absdiff", arguments := [x, y], expect := .exact z } := by
  have htext : ("absdiff " ++ x ++ " " ++ y).toList =
      "absdiff".toList ++ ' ' :: (x.toList ++ ' ' :: (y.toList ++ [])) := by
    simp
  have hspaced : Text.Spaced ("absdiff " ++ x ++ " " ++ y).toList ["absdiff", x, y] := by
    have hname : ∀ c ∈ "absdiff".toList, Text.isBlank c = false := by simp [Text.isBlank]
    rw [htext]
    refine .word_blank (by decide) hname rfl
      (.word_blank hx.ne_empty hx.noBlank rfl (.word hy.ne_empty hy.noBlank ?_ .nil))
    intro c hc
    cases hc
  have hbar : ∀ word ∈ ["absdiff", x, y], '|' ∉ word.toList := by
    simp [hx.noBar, hy.noBar]
  have hcolon : ∀ word ∈ ["absdiff", x, y], ':' ∉ word.toList := by
    simp [hx.noColon, hy.noColon]
  exact Execution.read_of_spaced (Expectation.written_exact (hspaced.notMem (by decide) hbar)
    (hspaced.notMem (by decide) hcolon) hz) hspaced

/-- A line that checks a distance succeeds if both arguments tell numbers and the text behind them
is their distance in decimal digits. -/
theorem succeeds_absdiff_iff {tools : Tools}
    (htools : tools.functions.get? "absdiff" = some absdiff) (hx : IsArgument x)
    (hy : IsArgument y) (hz : '|' ∉ z.toList) {e : Engine} {r : Rig} {call : String}
    (hraw : e.raw? = some ("~" ++ call))
    (hcall : r.bindings.substitute call = "absdiff " ++ x ++ " " ++ y ++ ":" ++ z) :
    (e.runNext tools r).1.Succeeds ↔
      ∃ a b, Tells x a ∧ Tells y b ∧ Text.Decimal z.toList (a - b).natAbs := by
  let check : Execution := { function := "absdiff", arguments := [x, y], expect := .exact z }
  have hkind : StepKind.ofLine ("~" ++ call).toList = .execute := by
    simp [StepKind.ofLine]
  have hstep : Step.ofLine ("~" ++ call) r.bindings = .ok (.execute check) := by
    rw [Step.ofLine_append hkind rfl, StepKind.substitutes, if_pos rfl, hcall, Step.read,
      read_absdiff hx hy hz]
    rfl
  -- The step fails as a whole if the function does, and if its result is another text.
  have hends : (∃ flow, ((Step.execute check).run tools (e.trying r)).1 = .ok flow) ↔
      (absdiff (e.trying r).trace [x, y]).result = .ok z :=
    Execution.ends_exact_iff htools rfl (e.trying r)
  rw [Engine.succeeds_runNext_iff hraw hstep, hends, absdiff_eq_ok_iff]
  constructor
  · rintro ⟨x', y', a, b, heq, hx', hy', hz'⟩
    cases heq
    exact ⟨a, b, hx', hy', hz'⟩
  · rintro ⟨a, b, hx', hy', hz'⟩
    exact ⟨x, y, a, b, rfl, hx', hy', hz'⟩

/-- Whatever white space, plus signs and leading zeros stand in them, two texts that tell whole
numbers of 64 bits have the distance of these as their result, in decimal digits and in either
order. It is the exact distance, also between the least number and the greatest. Any other arguments
are refused, be they too many, too few or no such texts. So a line that is a check of a distance,
when its references are replaced, succeeds exactly if its arguments tell two numbers and it expects
the decimal digits of their distance. -/
theorem distance_exact {tools : Tools}
    (htools : tools.functions.get? "absdiff" = some absdiff) :
    (∀ a b : Int, IsInt64 a → IsInt64 b →
      Tells (toString a) a ∧ (a - b).natAbs ≤ 2 ^ 64 - 1 ∧
      ((a - b).natAbs = 2 ^ 64 - 1 ↔
        a = -2 ^ 63 ∧ b = 2 ^ 63 - 1 ∨ a = 2 ^ 63 - 1 ∧ b = -2 ^ 63) ∧
      ∀ x y, Tells x a → Tells y b → ∃ text : String,
        Text.Decimal text.toList (a - b).natAbs ∧ ∀ t,
          tools.functions.call? "absdiff" [x, y] t = some { result := .ok text } ∧
          tools.functions.call? "absdiff" [y, x] t = some { result := .ok text }) ∧
    (∀ arguments t, (¬ ∃ x y a b, arguments = [x, y] ∧ Tells x a ∧ Tells y b) →
      ∃ failure, tools.functions.call? "absdiff" arguments t =
        some { result := .error failure }) ∧
    ∀ (x y z call : String) (e : Engine) (r : Rig), IsArgument x → IsArgument y →
      '|' ∉ z.toList → e.raw? = some ("~" ++ call) →
      r.bindings.substitute call = "absdiff " ++ x ++ " " ++ y ++ ":" ++ z →
      ((e.runNext tools r).1.Succeeds ↔
        ∃ a b, Tells x a ∧ Tells y b ∧ Text.Decimal z.toList (a - b).natAbs) := by
  have hcall (arguments : List String) (t : Trace) :
      tools.functions.call? "absdiff" arguments t =
        some { result := (absdiff t arguments).result } := by
    rw [Functions.call?, htools]
    rfl
  refine ⟨?_, ?_, ?_⟩
  · intro a b ha hb
    refine ⟨tells_toString ha, distance_le ha hb, distance_eq_iff ha hb, ?_⟩
    intro x y hx hy
    have htext := Text.decimal_toString (a - b).natAbs
    have hcomm : (b - a).natAbs = (a - b).natAbs := by omega
    refine ⟨_, htext, fun t => ⟨?_, ?_⟩⟩
    · rw [hcall, absdiff_eq_ok_iff.2 ⟨x, y, a, b, rfl, hx, hy, htext⟩]
    · rw [← hcomm] at htext ⊢
      rw [hcall, absdiff_eq_ok_iff.2 ⟨y, x, b, a, rfl, hy, hx, htext⟩]
  · intro arguments t hnone
    rw [hcall]
    cases hresult : (absdiff t arguments).result with
    | error failure => exact ⟨failure, rfl⟩
    | ok text =>
      -- Whatever has a result tells two numbers.
      obtain ⟨x, y, a, b, harguments, hx, hy, -⟩ := absdiff_eq_ok_iff.1 hresult
      exact absurd ⟨x, y, a, b, harguments, hx, hy⟩ hnone
  · intro x y z call e r hx hy hz hraw hsubstitute
    exact succeeds_absdiff_iff htools hx hy hz hraw hsubstitute

/-- The least number and the greatest are written with blanks, a plus sign and a leading zero, and a
line that takes the least one from a variable checks their distance. -/
theorem extremes_told_apart :
    let tools : Tools := { functions := builtins 0 fun _ _ => { result := .ok true } }
    let least := " -9223372036854775808"
    let greatest := "+09223372036854775807\t"
    let call := "absdiff $\x7blow\x7d +09223372036854775807:18446744073709551615"
    let e : Engine := { commands := ["~" ++ call], entries := [.command 0] }
    let r : Rig :=
      { link := { name := "", device := default }
        bindings := Table.set "low" "-9223372036854775808" {} }
    tools.functions.get? "absdiff" = some absdiff ∧
      Tells least (-2 ^ 63) ∧ Tells greatest (2 ^ 63 - 1) ∧
      tools.functions.call? "absdiff" [least, greatest] {} =
        some { result := .ok "18446744073709551615" } ∧
      (e.runNext tools r).1.Succeeds := by
  intro tools least greatest call e r
  have htools : tools.functions.get? "absdiff" = some absdiff := rfl
  have hleast : Tells " -9223372036854775808" (-2 ^ 63) :=
    readInteger_eq_ok_iff.1 (by decide +kernel)
  have hgreatest : Tells "+09223372036854775807\t" (2 ^ 63 - 1) :=
    readInteger_eq_ok_iff.1 (by decide +kernel)
  have hx : Tells "-9223372036854775808" (-2 ^ 63) :=
    readInteger_eq_ok_iff.1 (by decide +kernel)
  have hy : Tells "+09223372036854775807" (2 ^ 63 - 1) :=
    readInteger_eq_ok_iff.1 (by decide +kernel)
  obtain ⟨hdistance, -, hline⟩ := distance_exact htools
  obtain ⟨-, -, -, hgiven⟩ := hdistance _ _ hleast.inRange hgreatest.inRange
  obtain ⟨text, htext, hcalls⟩ := hgiven _ _ hleast hgreatest
  refine ⟨htools, hleast, hgreatest, ?_, ?_⟩
  · rw [(hcalls {}).1, Text.eq_toString_of_decimal htext]
    rfl
  · have hwords : IsArgument "-9223372036854775808" ∧ IsArgument "+09223372036854775807" :=
      ⟨⟨by decide, by simp [Text.isBlank], by decide, by decide⟩,
        ⟨by decide, by simp [Text.isBlank], by decide, by decide⟩⟩
    have hdecimal : Text.Decimal "18446744073709551615".toList
        (-2 ^ 63 - (2 ^ 63 - 1) : Int).natAbs := Text.decimal_toString 18446744073709551615
    exact (hline _ _ "18446744073709551615" call e r hwords.1 hwords.2 (by decide) rfl
      (by decide +kernel)).2 ⟨_, _, hx, hy, hdecimal⟩

end Function

end BringUp
