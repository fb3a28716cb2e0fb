import BringUp.Proofs.Text.Numeral
import BringUp.Proofs.Text.Trimming

/-!
# Whole numbers in decimal digits

A number has many numerals, with any zeros before it, but only one that has no zero to spare, and
that is how it is written. A whole number may have a sign before its numeral.

* `Decimal`, `decimal_iff`: the one numeral of a number without zeros to spare.
* `SignedNumeral`: a numeral with a sign or without.
* `signedNumeral_toString`: every whole number is written as one.
* `readInt_eq_ok_iff`: which texts are read as whole numbers of a range, and to what.
-/

namespace BringUp.Text

/-! ### Numerals without zeros to spare -/

/-- A numeral that starts with a zero only if it is no more than that. -/
structure Decimal (digits : List Char) (value : Nat) : Prop extends Numeral digits value where
  /-- No zero stands before other digits. -/
  noSpareZero : digits.head? = some '0' → digits = ['0']

variable {digits : List Char} {n : Nat}

/-- A digit is the one of its value. -/
theorem digitChar_of_isDigit {c : Char} (h : c.isDigit = true) :
    Nat.digitChar (c.toNat - 48) = c ∧ c.toNat - 48 < 10 := by
  obtain ⟨hlow, hhigh⟩ := toNat_of_isDigit h
  refine ⟨Char.toNat_inj.1 ?_, by omega⟩
  rw [Nat.toNat_digitChar_of_lt_ten (by omega)]
  omega

/-- Digits behind those of a number are the digits of what they make of it. -/
theorem toDigits_append (hdigits : ∀ c ∈ digits, c.isDigit = true) (hn : 0 < n) :
    Nat.toDigits 10 n ++ digits = Nat.toDigits 10 (Nat.ofDigitChars 10 digits n) := by
  -- Each digit makes the number greater, so it stays positive and has no zero to spare.
  induction digits generalizing n with
  | nil => simp
  | cons c digits ih =>
    obtain ⟨hc, hmore⟩ := List.forall_mem_cons.1 hdigits
    obtain ⟨hchar, hlt⟩ := digitChar_of_isDigit hc
    have hfirst : Nat.toDigits 10 n ++ [c] = Nat.toDigits 10 (10 * n + (c.toNat - 48)) := by
      rw [← Nat.toDigits_append_toDigits (by decide) hn hlt, Nat.toDigits_of_lt_base hlt, hchar]
    calc Nat.toDigits 10 n ++ c :: digits
        = Nat.toDigits 10 n ++ [c] ++ digits := by simp
      _ = Nat.toDigits 10 (10 * n + (c.toNat - 48)) ++ digits := by rw [hfirst]
      _ = Nat.toDigits 10 (Nat.ofDigitChars 10 digits (10 * n + (c.toNat - 48))) :=
        ih hmore (by omega)
      _ = Nat.toDigits 10 (Nat.ofDigitChars 10 (c :: digits) n) := by
        rw [Nat.ofDigitChars_cons]
        rfl

/-- The digits of a number start with a zero only if it is zero. -/
theorem eq_zero_of_head?_toDigits (h : (Nat.toDigits 10 n).head? = some '0') : n = 0 := by
  -- The first digit is that of a tenth of the number, until there is only one.
  induction n using Nat.strongRecOn with
  | _ n ih =>
    rw [Nat.toDigits_eq_if (by decide)] at h
    split at h
    · simpa [eq_comm] using h
    · next hlarge =>
      have hfront : (Nat.toDigits 10 (n / 10)).head? = some '0' := by
        cases hdigits : Nat.toDigits 10 (n / 10) with
        | nil => exact absurd hdigits Nat.toDigits_ne_nil
        | cons c digits => rwa [hdigits] at h
      have hzero := ih (n / 10) (by omega) hfront
      omega

/-- The one numeral of a number without zeros to spare has the digits of the number. -/
theorem decimal_iff : Decimal digits n ↔ digits = Nat.toDigits 10 n := by
  constructor
  · rintro ⟨⟨hne, hdigits, rfl⟩, hzero⟩
    obtain ⟨c, more, rfl⟩ := List.exists_cons_of_ne_nil hne
    obtain ⟨hc, hmore⟩ := List.forall_mem_cons.1 hdigits
    obtain ⟨hchar, hlt⟩ := digitChar_of_isDigit hc
    -- The first digit is a number by itself, and the others make it greater unless it is zero.
    by_cases hc0 : c = '0'
    · rw [hzero (by rw [hc0]; rfl)]
      rfl
    · have hpos : 0 < c.toNat - 48 := by
        refine Nat.pos_of_ne_zero fun h0 => hc0 ?_
        rw [← hchar, h0]
        rfl
      have hvalue : Nat.ofDigitChars 10 (c :: more) 0 =
          Nat.ofDigitChars 10 more (c.toNat - 48) := by
        rw [Nat.ofDigitChars_cons, Nat.mul_zero, Nat.zero_add]
        rfl
      rw [hvalue, ← toDigits_append hmore hpos, Nat.toDigits_of_lt_base hlt, hchar]
      rfl
  · rintro rfl
    refine ⟨numeral_toDigits n, fun hzero => ?_⟩
    rw [eq_zero_of_head?_toDigits hzero]
    rfl

/-- A number is written in this way. -/
theorem decimal_toString (n : Nat) : Decimal (toString n).toList n := by
  rw [decimal_iff, Nat.toString_eq_ofList_toDigits, String.toList_ofList]

/-- It is written in no other way. -/
theorem eq_toString_of_decimal {text : String} (h : Decimal text.toList n) : text = toString n :=
  String.toList_injective <| (decimal_iff.1 h).trans (decimal_iff.1 (decimal_toString n)).symm

/-! ### Signs -/

/-- A numeral with a sign or without, and the whole number that it has as its value. -/
inductive SignedNumeral : List Char → Int → Prop where
  /-- There is no sign. -/
  | plain {digits : List Char} {n : Nat} : Numeral digits n → SignedNumeral digits n
  /-- A plus sign changes nothing. -/
  | plus {digits : List Char} {n : Nat} : Numeral digits n → SignedNumeral ('+' :: digits) n
  /-- A minus sign makes the number negative, unless it is zero. -/
  | minus {digits : List Char} {n : Nat} : Numeral digits n → SignedNumeral ('-' :: digits) (-n)

/-- There is no blank in such a numeral, so it is what it is without the blanks around it. -/
theorem SignedNumeral.trims {text : List Char} {a : Int} (h : SignedNumeral text a) :
    Trims text text := by
  have hdigits {digits : List Char} {n : Nat} (h : Numeral digits n) :
      ∀ c ∈ digits, isBlank c = false := fun c hc => isBlank_of_isDigit (h.isDigit c hc)
  have hall : ∀ c ∈ text, isBlank c = false := by
    cases h with
    | plain hnumeral => exact hdigits hnumeral
    | plus hnumeral => exact List.forall_mem_cons.2 ⟨by decide, hdigits hnumeral⟩
    | minus hnumeral => exact List.forall_mem_cons.2 ⟨by decide, hdigits hnumeral⟩
  exact trims_self (fun c hc => hall c (List.mem_of_mem_head? hc))
    fun c hc => hall c (List.mem_of_getLast? hc)

/-- Every whole number is written as such a numeral. -/
theorem signedNumeral_toString (a : Int) : SignedNumeral (toString a).toList a := by
  have hnat (n : Nat) : Numeral (toString n).toList n := (decimal_toString n).toNumeral
  cases a with
  | ofNat n => exact .plain (hnat n)
  | negSucc n =>
    have htext : (toString (Int.negSucc n)).toList = '-' :: (toString (n + 1)).toList := by
      rw [show toString (Int.negSucc n) = "-" ++ toString (n + 1) from rfl]
      simp
    rw [htext]
    exact .minus (hnat (n + 1))

/-- What digits are read as, with something made of the value. -/
theorem map_readUnsigned_eq_ok_iff {limit : Nat} {beyond : NumeralError} {f : Nat → Int} {a : Int} :
    (readUnsigned limit beyond digits).map f = .ok a ↔
      ∃ n, (Numeral digits n ∧ n ≤ limit) ∧ f n = a := by
  have hread (n : Nat) :
      readUnsigned limit beyond digits = .ok n ↔ Numeral digits n ∧ n ≤ limit :=
    readUnsigned_eq_ok_iff
  simp only [← hread]
  cases readUnsigned limit beyond digits <;> simp [Except.map]

/-- A text is read to its value if it is a numeral in range, which may have a sign. -/
theorem readInt_eq_ok_iff {bound : Nat} (hbound : 0 < bound) {text : List Char} {a : Int} :
    readInt bound text = .ok a ↔ SignedNumeral text a ∧ -(bound : Int) ≤ a ∧ a < bound := by
  unfold readInt
  split
  · refine iff_of_false (by simp) ?_
    rintro ⟨⟨hnumeral⟩, -⟩
    exact hnumeral.ne_nil rfl
  · next digits =>
    -- The value is taken as a whole number before its sign is changed.
    have hmap : ((readUnsigned bound .tooSmall digits >>= fun n => pure (n : Int)).map fun m => -m) =
        (readUnsigned bound .tooSmall digits).map fun n : Nat => -(n : Int) := by
      cases readUnsigned bound .tooSmall digits <;> rfl
    rw [hmap, map_readUnsigned_eq_ok_iff]
    constructor
    · rintro ⟨n, ⟨hnumeral, hle⟩, rfl⟩
      exact ⟨.minus hnumeral, by omega, by omega⟩
    · rintro ⟨hsigned, hlow, -⟩
      cases hsigned with
      | plain hnumeral => exact absurd (hnumeral.isDigit '-' List.mem_cons_self) (by decide)
      | minus hnumeral => exact ⟨_, ⟨hnumeral, by omega⟩, rfl⟩
  · next digits =>
    rw [map_readUnsigned_eq_ok_iff]
    constructor
    · rintro ⟨n, ⟨hnumeral, hle⟩, rfl⟩
      exact ⟨.plus hnumeral, by grind, by grind⟩
    · rintro ⟨hsigned, -, hhigh⟩
      cases hsigned with
      | plain hnumeral => exact absurd (hnumeral.isDigit '+' List.mem_cons_self) (by decide)
      | plus hnumeral => exact ⟨_, ⟨hnumeral, by omega⟩, rfl⟩
  · next hminus hplus =>
    rw [map_readUnsigned_eq_ok_iff]
    constructor
    · rintro ⟨n, ⟨hnumeral, hle⟩, rfl⟩
      exact ⟨.plain hnumeral, by grind, by grind⟩
    · rintro ⟨hsigned, -, hhigh⟩
      cases hsigned with
      | plain hnumeral => exact ⟨_, ⟨hnumeral, by omega⟩, rfl⟩
      | plus _ => exact absurd rfl (hplus _)
      | minus _ => exact absurd rfl (hminus _)

end BringUp.Text
