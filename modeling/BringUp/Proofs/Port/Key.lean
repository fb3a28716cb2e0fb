import BringUp.Port.Ranking
import BringUp.Proofs.Text.Numeral
import Mathlib.Data.List.TakeWhile
import Mathlib.Data.Prod.Lex
import Mathlib.Data.String.Basic

/-!
# What ports are sorted by

The name of a port is a stem and the digits at its end. Ports are sorted by their stems, and ports
of one stem by the numbers that the digits are read as.

* `EndsInDigits`: a name is a stem and the digits at its end.
* `SerialPort.value`, `number_eq`: the value of the digits, and the number that they are read as.
* `SerialPort.key`, `precedes_iff`: a port may stand before another one if its key is no greater.
-/

namespace BringUp

/-- A name is a stem, which does not end in a digit, and digits. -/
structure EndsInDigits (name stem digits : List Char) : Prop where
  /-- They spell the name. -/
  spelled : name = stem ++ digits
  /-- There is nothing but digits at the end. -/
  isDigit : ∀ c ∈ digits, c.isDigit = true
  /-- The stem does not end in a digit. -/
  last : ∀ c, stem.getLast? = some c → c.isDigit = false

namespace SerialPort

/-- The digits at the end of the name. -/
def digits (p : SerialPort) : List Char := (p.name.toList.reverse.takeWhile Char.isDigit).reverse

/-- A name is its stem and the digits at its end. -/
theorem endsInDigits (p : SerialPort) : EndsInDigits p.name.toList p.stem.toList p.digits where
  spelled := by
    rw [stem, digits, String.toList_ofList, ← List.reverse_append, List.takeWhile_append_dropWhile,
      List.reverse_reverse]
  isDigit c hc := List.mem_takeWhile_imp (List.mem_reverse.1 hc)
  last c hc := by
    rw [stem, String.toList_ofList, List.getLast?_reverse] at hc
    have hnot := List.head?_dropWhile_not Char.isDigit p.name.toList.reverse
    rw [hc] at hnot
    simpa using hnot

/-- The value of the digits at the end of the name, however many there are. -/
def value (p : SerialPort) : Nat := Nat.ofDigitChars 10 p.digits 0

/-- The digits are read as their value, or as zero if it needs more than 64 bits. -/
theorem number_eq (p : SerialPort) :
    p.number = if p.value ≤ Text.maxWord64 then p.value else 0 := by
  have hdigits := p.endsInDigits.isDigit
  have hread {n : Nat} : Text.readNat Text.maxWord64 p.digits = .ok n ↔
      Text.Numeral p.digits n ∧ n ≤ Text.maxWord64 := Text.readNat_eq_ok_iff hdigits
  rw [number, ← digits]
  split
  · next n hn =>
    obtain ⟨hnumeral, hle⟩ := hread.1 hn
    have hvalue : p.value = n := hnumeral.value_eq
    rw [hvalue, if_pos hle]
  · next hn =>
    -- Only a value that is too large is not read, or one of no digits, which is zero.
    by_cases hle : p.value ≤ Text.maxWord64
    · by_cases hnil : p.digits = []
      · rw [value, hnil, Nat.ofDigitChars_nil, ite_self]
      · rw [hread.2 ⟨⟨hnil, hdigits, rfl⟩, hle⟩] at hn
        cases hn
    · rw [if_neg hle]

/-- A value in range is the number. -/
theorem number_of_le {p : SerialPort} (h : p.value ≤ Text.maxWord64) : p.number = p.value := by
  rw [number_eq, if_pos h]

/-- A value out of range counts as zero. -/
theorem number_of_lt {p : SerialPort} (h : Text.maxWord64 < p.value) : p.number = 0 := by
  rw [number_eq, if_neg (Nat.not_le.2 h)]

/-- What the ports are sorted by: the stem, and then the number. -/
def key (p : SerialPort) : String ×ₗ Nat := toLex (p.stem, p.number)

theorem key_eq_iff {p q : SerialPort} : p.key = q.key ↔ p.stem = q.stem ∧ p.number = q.number :=
  Prod.mk_inj

/-- A port may stand before another one if its key is no greater. -/
theorem precedes_iff {p q : SerialPort} : p.precedes q = true ↔ p.key ≤ q.key := by
  rw [key, key, Prod.Lex.toLex_le_toLex, precedes]
  simp

/-- A debug cable is a USB device with the vendor and the product of such cables. -/
theorem isDebugCable_iff {p : SerialPort} :
    p.isDebugCable = true ↔ p.kind = .usb 0x0403 0x6001 :=
  beq_iff_eq

end SerialPort

end BringUp
