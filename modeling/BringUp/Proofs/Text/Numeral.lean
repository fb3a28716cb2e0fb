import BringUp.Text.Blank
import BringUp.Text.Numeral

/-!
# The value of a numeral

A numeral is a text of one or more decimal digits, with leading zeros or without, and it has a
value. Digits are read to their value if it is in range, and not at all if it is not, however many
digits follow.

* `Numeral`: a text of digits with its value.
* `numeral_toDigits`: every number has a numeral.
* `readDigits_eq_ok_iff`: what is read of digits on top of a value.
* `readUnsigned_eq_ok_iff`, `readNat_eq_ok_iff_exists`: which texts are read, and to what.
-/

namespace BringUp.Text

/-- A digit has one of ten codes. -/
theorem toNat_of_isDigit {c : Char} (h : c.isDigit = true) : 48 ≤ c.toNat ∧ c.toNat ≤ 57 := by
  simpa [Char.isDigit, UInt32.le_iff_toNat_le] using h

/-- No digit is a blank. -/
theorem isBlank_of_isDigit {c : Char} (h : c.isDigit = true) : isBlank c = false := by
  have hrange := toNat_of_isDigit h
  simp only [isBlank, Bool.or_eq_false_iff, Bool.and_eq_false_iff, decide_eq_false_iff_not,
    beq_eq_false_iff_ne]
  omega

/-- A text of one or more decimal digits that has a value. -/
structure Numeral (digits : List Char) (value : Nat) : Prop where
  /-- There is a digit. -/
  ne_nil : digits ≠ []
  /-- There is nothing but digits. -/
  isDigit : ∀ c ∈ digits, c.isDigit = true
  /-- The digits have the value. -/
  value_eq : Nat.ofDigitChars 10 digits 0 = value

/-- The decimal digits of a number are a numeral with its value. -/
theorem numeral_toDigits (n : Nat) : Numeral (Nat.toDigits 10 n) n where
  ne_nil := Nat.toDigits_ne_nil
  isDigit _ := Nat.isDigit_of_mem_toDigits (by decide) (by decide)
  value_eq := Nat.ofDigitChars_toDigits (by decide) (by decide)

variable {limit n m : Nat} {beyond : NumeralError} {digits : List Char}

/-- Further digits make no value smaller. -/
theorem le_ofDigitChars (digits : List Char) (n : Nat) : n ≤ Nat.ofDigitChars 10 digits n := by
  rw [Nat.ofDigitChars_eq_ofDigitChars_zero]
  calc n ≤ 10 ^ digits.length * n := Nat.le_mul_of_pos_left n (Nat.pow_pos (by decide))
    _ ≤ _ := Nat.le_add_right _ _

/-- On top of a value in range, digits are read to their value if this is in range, too. -/
theorem readDigits_eq_ok_iff (hn : n ≤ limit) :
    readDigits limit beyond n digits = .ok m ↔
      (∀ c ∈ digits, c.isDigit = true) ∧ Nat.ofDigitChars 10 digits n = m ∧ m ≤ limit := by
  induction digits generalizing n with
  | nil =>
    simp only [readDigits, Except.ok.injEq, Nat.ofDigitChars_nil]
    constructor
    · rintro rfl
      exact ⟨by simp, rfl, hn⟩
    · exact fun h => h.2.1
  | cons c digits ih =>
    have hvalue : Nat.ofDigitChars 10 (c :: digits) n =
        Nat.ofDigitChars 10 digits (n * 10 + (c.toNat - 48)) := by
      rw [Nat.ofDigitChars_cons, Nat.mul_comm]
      rfl
    simp only [readDigits, hvalue, List.forall_mem_cons]
    split
    · next hdigit =>
      split
      · next hle => simp [ih hle, hdigit]
      · next hgt =>
        -- Once the value is out of range, it stays so.
        have hbeyond := le_ofDigitChars digits (n * 10 + (c.toNat - 48))
        refine iff_of_false (by simp) ?_
        rintro ⟨-, rfl, hle⟩
        exact hgt (Nat.le_trans hbeyond hle)
    · next hdigit => exact iff_of_false (by simp) fun h => hdigit h.1.1

/-- A text without a sign is read to its value if it is a numeral in range. -/
theorem readUnsigned_eq_ok_iff :
    readUnsigned limit beyond digits = .ok m ↔ Numeral digits m ∧ m ≤ limit := by
  unfold readUnsigned
  split
  · exact iff_of_false (by simp) fun h => h.1.ne_nil rfl
  · next hne =>
    rw [readDigits_eq_ok_iff (Nat.zero_le _)]
    exact ⟨fun h => ⟨⟨hne, h.1, h.2.1⟩, h.2.2⟩, fun h => ⟨h.1.isDigit, h.1.value_eq, h.2⟩⟩

/-- A text is read to its value if it is a numeral in range, which may have a plus sign. -/
theorem readNat_eq_ok_iff_exists {text : List Char} :
    readNat limit text = .ok m ↔
      ∃ digits, (text = digits ∨ text = '+' :: digits) ∧ Numeral digits m ∧ m ≤ limit := by
  unfold readNat
  split
  · refine iff_of_false (by simp) ?_
    rintro ⟨digits, rfl | heq, hnumeral, -⟩
    · exact hnumeral.ne_nil rfl
    · cases heq
  · next rest =>
    rw [readUnsigned_eq_ok_iff]
    constructor
    · exact fun h => ⟨rest, .inr rfl, h⟩
    · rintro ⟨digits, rfl | heq, hnumeral, hle⟩
      · exact absurd (hnumeral.isDigit '+' List.mem_cons_self) (by decide)
      · cases heq
        exact ⟨hnumeral, hle⟩
  · next hplus =>
    rw [readUnsigned_eq_ok_iff]
    constructor
    · exact fun h => ⟨text, .inl rfl, h⟩
    · rintro ⟨digits, rfl | rfl, hnumeral, hle⟩
      · exact ⟨hnumeral, hle⟩
      · exact absurd rfl (hplus digits)

/-- A text of digits is read to its value, unless it is empty or the value is out of range. -/
theorem readNat_eq_ok_iff (hdigits : ∀ c ∈ digits, c.isDigit = true) :
    readNat limit digits = .ok m ↔ Numeral digits m ∧ m ≤ limit := by
  rw [readNat_eq_ok_iff_exists]
  constructor
  · rintro ⟨digits', rfl | rfl, h⟩
    · exact h
    · exact absurd (hdigits '+' List.mem_cons_self) (by decide)
  · exact fun h => ⟨digits, .inl rfl, h⟩

end BringUp.Text
