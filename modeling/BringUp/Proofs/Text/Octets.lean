import BringUp.Proofs.Text.Cutting
import BringUp.Text.Utf8
import BringUp.Trace

/-!
# The octets of a text

The octets of a text are those of its characters, one after the other. A character below 128 is one
octet, and no other character has an octet below 128. So such characters, among them those of a line
end, stand in the octets exactly where they stand in the text.

* `encode_eq_flatMap`: the octets of a text are those of its characters.
* `encode_append_eq_iff`: what stands before the end of a text is in its octets.
* `pair_infix_encode_iff`: where two neighbours below 128 stand in the octets.
* `OneLine`, `oneLine_encode_iff`: which texts are a single line with a line end behind them.
-/

namespace BringUp.Text.Utf8

/-! ### Character by character -/

/-- What is listed from a place on is the rest, behind what has been listed before. -/
theorem toList_loop (bytes : ByteArray) (i : Nat) (seen : List UInt8) :
    ByteArray.toList.loop bytes i seen = seen.reverse ++ bytes.data.toList.drop i := by
  induction i, seen using ByteArray.toList.loop.induct bytes with
  | case1 i seen hlt ih =>
    have hrest : bytes.data.toList.drop i = bytes.get! i :: bytes.data.toList.drop (i + 1) := by
      have hsize : i < bytes.data.size := hlt
      rw [List.drop_eq_getElem_cons hsize, Array.getElem_toList]
      exact congrArg (· :: _) (getElem!_pos bytes.data i hsize).symm
    rw [ByteArray.toList.loop, if_pos hlt, ih, hrest, List.reverse_cons, List.append_assoc,
      List.singleton_append]
  | case2 i seen hge =>
    have hsize : bytes.data.toList.length ≤ i := Nat.le_of_not_lt hge
    rw [ByteArray.toList.loop, if_neg hge, List.drop_of_length_le hsize, List.append_nil]

/-- The octets of a text are those of its characters, one after the other. -/
theorem encode_eq_flatMap (s : String) : encode s = s.toList.flatMap String.utf8EncodeChar := by
  have hbytes : s.toByteArray = (s.toList.flatMap String.utf8EncodeChar).toByteArray := by
    rw [← List.utf8Encode, ← String.toByteArray_ofList, String.ofList_toList]
  have hlist : encode s = s.toByteArray.data.toList := toList_loop s.toByteArray 0 []
  rw [hlist, hbytes, List.toList_data_toByteArray]

/-- The octets of a text in two parts are those of the parts. -/
theorem encode_append (front back : String) :
    encode (front ++ back) = encode front ++ encode back := by
  simp only [encode_eq_flatMap, String.toList_append, List.flatMap_append]

/-- Every character has an octet. -/
theorem utf8EncodeChar_ne_nil (c : Char) : String.utf8EncodeChar c ≠ [] := by
  simp only [String.utf8EncodeChar]
  split_ifs <;> exact List.cons_ne_nil _ _

/-- The octets of a text are those of its end alone only if nothing comes before the end. -/
theorem encode_append_eq_iff {front back : String} :
    encode (front ++ back) = encode back ↔ front = "" := by
  rw [encode_append, List.append_left_eq_self, encode_eq_flatMap, List.flatMap_eq_nil_iff,
    ← String.toList_eq_nil_iff, List.eq_nil_iff_forall_not_mem]
  exact forall₂_congr fun c _ => iff_false_intro (utf8EncodeChar_ne_nil c)

/-! ### Characters of one octet -/

variable {a b c : Char} {cs : List Char}

/-- A character below 128 is a single octet. -/
theorem utf8EncodeChar_of_lt (ha : a.toNat < 128) :
    String.utf8EncodeChar a = [a.toNat.toUInt8] := by
  have hle : a.val.toNat ≤ 127 := Nat.le_of_lt_succ ha
  simp only [String.utf8EncodeChar, if_pos hle]
  rfl

/-- All octets of any other character have their high bit set. -/
theorem le_of_mem_utf8EncodeChar (hc : ¬ c.toNat < 128) :
    ∀ octet ∈ String.utf8EncodeChar c, 128 ≤ octet.toNat := by
  have hlong : ¬ c.val.toNat ≤ 127 := fun hle => hc (Nat.lt_succ_of_le hle)
  simp only [String.utf8EncodeChar, if_neg hlong]
  split_ifs <;> simp <;> omega

/-- An octet below 128 stands in no other character than its own. -/
theorem mem_utf8EncodeChar_iff (ha : a.toNat < 128) :
    a.toNat.toUInt8 ∈ String.utf8EncodeChar c ↔ c = a := by
  have hoctet (a : Char) (ha : a.toNat < 128) : a.toNat.toUInt8.toNat = a.toNat := by
    simp only [Nat.toUInt8_eq, UInt8.toNat_ofNat']
    omega
  constructor
  · intro h
    by_cases hc : c.toNat < 128
    · rw [utf8EncodeChar_of_lt hc, List.mem_singleton] at h
      have hsame : c.toNat = a.toNat := by rw [← hoctet c hc, ← hoctet a ha, h]
      exact Char.ext (UInt32.toNat_inj.1 hsame)
    · have hhigh := le_of_mem_utf8EncodeChar hc _ h
      rw [hoctet a ha] at hhigh
      omega
  · rintro rfl
    rw [utf8EncodeChar_of_lt ha]
    exact List.mem_singleton_self _

/-- A character ends with an octet below 128 only if it is that octet. -/
theorem getLast?_utf8EncodeChar_iff (ha : a.toNat < 128) :
    (String.utf8EncodeChar c).getLast? = some a.toNat.toUInt8 ↔ c = a := by
  constructor
  · exact fun h => (mem_utf8EncodeChar_iff ha).1 (List.mem_of_getLast? h)
  · rintro rfl
    rw [utf8EncodeChar_of_lt ha]
    rfl

/-- The octets of a text start with one below 128 only if the text starts with its character. -/
theorem head?_flatMap_iff (ha : a.toNat < 128) :
    (cs.flatMap String.utf8EncodeChar).head? = some a.toNat.toUInt8 ↔ cs.head? = some a := by
  cases cs with
  | nil => simp
  | cons c cs =>
    rw [List.flatMap_cons, List.head?_append_of_ne_nil _ (utf8EncodeChar_ne_nil c),
      List.head?_cons, Option.some.injEq]
    constructor
    · exact fun h => (mem_utf8EncodeChar_iff ha).1 (List.mem_of_head? h)
    · rintro rfl
      rw [utf8EncodeChar_of_lt ha]
      rfl

/-- Two neighbours below 128 stand in the octets of a text exactly if they stand in the text. -/
theorem pair_infix_encode_iff {s : String} (ha : a.toNat < 128) (hb : b.toNat < 128) :
    [a.toNat.toUInt8, b.toNat.toUInt8] <:+: encode s ↔ [a, b] <:+: s.toList := by
  rw [encode_eq_flatMap]
  induction s.toList with
  | nil => simp
  | cons c cs ih =>
    have hsingle : ¬ [a, b] <:+: [c] := fun h => by simpa using h.length_le
    have hchar : ¬ [a.toNat.toUInt8, b.toNat.toUInt8] <:+: String.utf8EncodeChar c := by
      intro h
      obtain rfl := (mem_utf8EncodeChar_iff ha).1 (h.subset List.mem_cons_self)
      rw [utf8EncodeChar_of_lt ha] at h
      simpa using h.length_le
    have hcons : c :: cs = [c] ++ cs := rfl
    rw [List.flatMap_cons, pair_infix_append_iff, getLast?_utf8EncodeChar_iff ha,
      head?_flatMap_iff hb, ih, hcons, pair_infix_append_iff]
    simp [hsingle, hchar]

/-! ### Lines -/

/-- Octets are one line: a carriage return and a line feed end them, and stand nowhere else. -/
structure OneLine (octets : List UInt8) : Prop where
  /-- A carriage return and a line feed are at the end. -/
  ends : [13, 10] <:+ octets
  /-- There are no others. -/
  once : ∀ before after, octets = before ++ [13, 10] ++ after → after = []

/-- A line end is a carriage return and a line feed. -/
theorem encode_append_lineEnd (line : String) :
    encode (line ++ lineEnd) = encode line ++ [13, 10] := by
  have hend : encode lineEnd = [13, 10] := by
    rw [encode_eq_flatMap]
    decide
  rw [encode_append, hend]

/-- A text with a line end behind it is one line exactly if no line end stands in it. -/
theorem oneLine_encode_iff {line : String} :
    OneLine (encode (line ++ lineEnd)) ↔ ¬ ['\r', '\n'] <:+: line.toList := by
  have hstands : [13, 10] <:+: encode line ↔ ['\r', '\n'] <:+: line.toList :=
    @pair_infix_encode_iff '\r' '\n' line (by decide) (by decide)
  rw [encode_append_lineEnd, ← hstands]
  constructor
  · rintro ⟨-, honce⟩ ⟨before, after, heq⟩
    have hnil := honce before (after ++ [13, 10]) (by simp [← heq])
    simp at hnil
  · intro hnone
    refine ⟨List.suffix_append _ _, fun before after heq => ?_⟩
    -- An earlier line end would lie before the last octet, and it cannot be cut by the one there.
    rcases List.eq_nil_or_concat after with hnil | ⟨rest, last, rfl⟩
    · exact hnil
    · have hfront : encode line ++ [13] = before ++ [13, 10] ++ rest := by
        have hsplit : encode line ++ [13] ++ [10] = before ++ [13, 10] ++ rest ++ [last] := by
          simpa using heq
        exact (List.append_inj' hsplit rfl).1
      have hinfix : [13, 10] <:+: encode line ++ [13] := ⟨before, rest, hfront.symm⟩
      rcases pair_infix_append_iff.1 hinfix with h | h | ⟨-, h⟩
      · exact absurd h hnone
      · exact absurd h.length_le (by decide)
      · exact absurd h (by decide)

end BringUp.Text.Utf8
