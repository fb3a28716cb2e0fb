import BringUp.Proofs.Reply.Chunks
import BringUp.Proofs.Text.Octets

/-!
# Octets of a text, decoded as a whole and in pieces

The octets of a text are decoded to the text. If they are decoded in pieces, every cut inside of a
character costs more than the character: its start is malformed, and so is each octet behind the
cut. So the pieces have more characters than the whole, and the text comes out only if each piece is
the octets of a text itself.

* `decode_encode`: octets of a text are decoded to it.
* `length_decode_append_le`: a cut loses no characters.
* `unbroken_of_length_decode_append`: only a cut where no character goes on adds none.
* `isText_of_unbroken`: such a cut is one between two texts.
* `flatMap_decode_eq_iff`: which pieces are decoded to the text of the whole.
-/

namespace BringUp.Text.Utf8

/-! ### The octets of a text -/

section Steps

variable {bits more lo hi v : Nat} {a b c d : UInt8} {rest : List UInt8}

/-- An octet starts a character that goes on. -/
theorem run_start {s : State} (h : first b.toNat = ([], s)) :
    run .idle (b :: rest) = run s rest := by
  simp [run, step, h]

/-- An octet goes on with a character. -/
theorem run_partway (hmore : 1 < more) (hlo : lo ≤ b.toNat) (hhi : b.toNat ≤ hi) :
    run (.partway bits more lo hi) (b :: rest) =
      run (.partway (bits * 64 + (b.toNat - 0x80)) (more - 1) 0x80 0xBF) rest := by
  simp [run, step, hlo, hhi, Nat.not_le.2 hmore]

/-- An octet completes a character. -/
theorem run_partway_last (hmore : more ≤ 1) (hlo : lo ≤ b.toNat) (hhi : b.toNat ≤ hi) :
    run (.partway bits more lo hi) (b :: rest) =
      some (Char.ofNat (bits * 64 + (b.toNat - 0x80))) :: run .idle rest := by
  simp [run, step, hlo, hhi, hmore]

/-- An octet breaks off a character. -/
theorem run_partway_break (hbreak : ¬ (lo ≤ b.toNat ∧ b.toNat ≤ hi)) :
    run (.partway bits more lo hi) (b :: rest) = none :: run .idle (b :: rest) := by
  have hcannot : ¬ (decide (lo ≤ b.toNat) && decide (b.toNat ≤ hi)) = true := by simpa using hbreak
  simp only [run, step, if_neg hcannot, List.cons_append]

/-- A character of one octet. -/
theorem run_one (ha : a.toNat = v) (hv : v < 0x80) :
    run .idle (a :: rest) = some (Char.ofNat v) :: run .idle rest := by
  simp [run, step, first, ha, hv]

/-- A character of two octets. -/
theorem run_two (ha : a.toNat = v / 64 + 0xC0) (hb : b.toNat = v % 64 + 0x80) (hlow : 0x80 ≤ v)
    (hhigh : v < 0x800) :
    run .idle (a :: b :: rest) = some (Char.ofNat v) :: run .idle rest := by
  have hfirst : first a.toNat = ([], .partway (v / 64) 1 0x80 0xBF) := by
    rw [first, if_neg (by omega), if_neg (by omega), if_pos (by omega), ha, Nat.add_sub_cancel]
  have hbits : v / 64 * 64 + (b.toNat - 0x80) = v := by omega
  rw [run_start hfirst, run_partway_last (by decide) (by omega) (by omega), hbits]

/-- A character of three octets. -/
theorem run_three (ha : a.toNat = v / 4096 + 0xE0) (hb : b.toNat = v / 64 % 64 + 0x80)
    (hc : c.toNat = v % 64 + 0x80) (hlow : 0x800 ≤ v) (hhigh : v < 0x10000)
    (hsurrogate : v < 0xD800 ∨ 0xDFFF < v) :
    run .idle (a :: b :: c :: rest) = some (Char.ofNat v) :: run .idle rest := by
  have hfirst : first a.toNat = ([], .partway (v / 4096) 2 (if a.toNat = 0xE0 then 0xA0 else 0x80)
      (if a.toNat = 0xED then 0x9F else 0xBF)) := by
    rw [first, if_neg (by omega), if_neg (by omega), if_neg (by omega), if_pos (by omega), ha,
      Nat.add_sub_cancel]
  -- No shorter form and no surrogate is among the octets that may come second.
  have hlo : (if a.toNat = 0xE0 then 0xA0 else 0x80) ≤ b.toNat := by split_ifs <;> omega
  have hhi : b.toNat ≤ (if a.toNat = 0xED then 0x9F else 0xBF) := by split_ifs <;> omega
  have hbits : (v / 4096 * 64 + (b.toNat - 0x80)) * 64 + (c.toNat - 0x80) = v := by omega
  rw [run_start hfirst, run_partway (by decide) hlo hhi,
    run_partway_last (by decide) (by omega) (by omega), hbits]

/-- A character of four octets. -/
theorem run_four (ha : a.toNat = v / 262144 + 0xF0) (hb : b.toNat = v / 4096 % 64 + 0x80)
    (hc : c.toNat = v / 64 % 64 + 0x80) (hd : d.toNat = v % 64 + 0x80) (hlow : 0x10000 ≤ v)
    (hhigh : v < 0x110000) :
    run .idle (a :: b :: c :: d :: rest) = some (Char.ofNat v) :: run .idle rest := by
  have hfirst : first a.toNat = ([], .partway (v / 262144) 3
      (if a.toNat = 0xF0 then 0x90 else 0x80) (if a.toNat = 0xF4 then 0x8F else 0xBF)) := by
    rw [first, if_neg (by omega), if_neg (by omega), if_neg (by omega), if_neg (by omega),
      if_pos (by omega), ha, Nat.add_sub_cancel]
  have hlo : (if a.toNat = 0xF0 then 0x90 else 0x80) ≤ b.toNat := by split_ifs <;> omega
  have hhi : b.toNat ≤ (if a.toNat = 0xF4 then 0x8F else 0xBF) := by split_ifs <;> omega
  have hbits : ((v / 262144 * 64 + (b.toNat - 0x80)) * 64 + (c.toNat - 0x80)) * 64 +
      (d.toNat - 0x80) = v := by omega
  rw [run_start hfirst, run_partway (by decide) hlo hhi,
    run_partway (by decide) (by omega) (by omega),
    run_partway_last (by decide) (by omega) (by omega), hbits]

end Steps

/-- The octets of a character are decoded to it, whatever follows. -/
theorem run_utf8EncodeChar (c : Char) (rest : List UInt8) :
    run .idle (String.utf8EncodeChar c ++ rest) = some c :: run .idle rest := by
  -- A character is no surrogate, so that its octets are none of those that may not come second.
  have hvalid : c.toNat < 0xD800 ∨ 0xDFFF < c.toNat ∧ c.toNat < 0x110000 := c.valid
  have hself : Char.ofNat c.toNat = c := c.ofNat_toNat
  have hval : c.val.toNat = c.toNat := rfl
  simp only [String.utf8EncodeChar, hval]
  generalize c.toNat = v at hvalid hself
  have hoctet {n : Nat} (hn : n < 256) : (UInt8.ofNat n).toNat = n := by
    rw [UInt8.toNat_ofNat', Nat.mod_eq_of_lt hn]
  rw [← hself]
  split_ifs with hone htwo hthree
  · exact run_one (hoctet (by omega)) (by omega)
  · refine run_two ?_ ?_ (by omega) (by omega) <;> rw [hoctet (by omega)]
    omega
  · refine run_three ?_ ?_ ?_ (by omega) (by omega) (by omega) <;> rw [hoctet (by omega)]
    omega
  · refine run_four ?_ ?_ ?_ ?_ (by omega) (by omega) <;> rw [hoctet (by omega)]
    omega

/-- The octets of a text are decoded to it, whatever follows. -/
theorem run_encode_append (text : String) (rest : List UInt8) :
    run .idle (encode text ++ rest) = text.toList.map some ++ run .idle rest := by
  rw [encode_eq_flatMap]
  induction text.toList with
  | nil => rfl
  | cons c cs ih => rw [List.flatMap_cons, List.append_assoc, run_utf8EncodeChar, ih]; rfl

/-- The octets of a text are decoded to it, and then what follows is decoded. -/
theorem decode_encode_append (text : String) (rest : List UInt8) :
    decode (encode text ++ rest) = text.toList ++ decode rest := by
  rw [decode, run_encode_append, List.map_append, List.map_map]
  exact congrArg (· ++ decode rest) (List.map_id _)

/-- The octets of a text are decoded to it. -/
@[simp]
theorem decode_encode (text : String) : decode (encode text) = text.toList := by
  have hall := decode_encode_append text []
  rwa [List.append_nil, show decode [] = [] from rfl, List.append_nil] at hall

/-! ### Cuts -/

/-- Only octets that may go on with a character are asked for, and no character starts with one. -/
def State.BelowStart : State → Prop
  | .idle => True
  | .partway _ _ _ hi => hi < 0xC2

theorem belowStart_tail {bits more : Nat} : (State.partway bits more 0x80 0xBF).BelowStart := by
  simp [State.BelowStart]

theorem belowStart_first (b : Nat) : (first b).2.BelowStart := by
  unfold first
  split_ifs <;> simp [State.BelowStart]

theorem belowStart_step {s : State} (hs : s.BelowStart) (b : Nat) : (step s b).2.BelowStart := by
  cases s with
  | idle => exact belowStart_first b
  | partway bits more lo hi =>
    rw [step]
    split_ifs
    · trivial
    · exact belowStart_tail
    · exact belowStart_first b

theorem belowStart_stateAfter {s : State} (hs : s.BelowStart) (bs : List UInt8) :
    (stateAfter s bs).BelowStart := by
  induction bs generalizing s with
  | nil => exact hs
  | cons b bs ih => exact ih (belowStart_step hs b.toNat)

/-- An octet that may go on with a character is a character of its own, perhaps a malformed one,
where none is under way. -/
theorem length_run_idle_of_lt {b : UInt8} (hb : b.toNat < 0xC2) (rest : List UInt8) :
    (run .idle (b :: rest)).length = (run .idle rest).length + 1 := by
  simp only [run, step, first]
  split_ifs <;> simp

/-- An octet that goes on with a character adds no more than it would without the character, if this
holds of what comes of the rest. -/
theorem length_run_goesOn_le {bits more lo hi : Nat} {b : UInt8} {bs : List UInt8} (hhi : hi < 0xC2)
    (hin : lo ≤ b.toNat ∧ b.toNat ≤ hi)
    (hrest : ∀ {s : State}, s.BelowStart →
      (run s bs).length ≤ (finish s).length + (run .idle bs).length) :
    (run (.partway bits more lo hi) (b :: bs)).length ≤ (run .idle (b :: bs)).length := by
  rw [length_run_idle_of_lt (Nat.lt_of_le_of_lt hin.2 hhi)]
  by_cases hmore : 1 < more
  · have hnext : State.BelowStart
        (.partway (bits * 64 + (b.toNat - 0x80)) (more - 1) 0x80 0xBF) := belowStart_tail
    have hle := hrest hnext
    rw [run_partway hmore hin.1 hin.2]
    simp only [finish, List.length_singleton] at hle
    omega
  · rw [run_partway_last (Nat.not_lt.1 hmore) hin.1 hin.2, List.length_cons]

/-- A character that is under way adds one at most to what comes of the octets without it. -/
theorem length_run_le (bs : List UInt8) {s : State} (hs : s.BelowStart) :
    (run s bs).length ≤ (finish s).length + (run .idle bs).length := by
  -- The octet that breaks off a character is decoded again, as if there had been no character.
  induction bs generalizing s with
  | nil => exact Nat.le_add_right _ _
  | cons b bs ih =>
    cases s with
    | idle => exact Nat.le_add_left _ _
    | partway bits more lo hi =>
      by_cases hin : lo ≤ b.toNat ∧ b.toNat ≤ hi
      · exact Nat.le_trans (length_run_goesOn_le hs hin ih) (Nat.le_add_left _ _)
      · rw [run_partway_break hin, List.length_cons]
        exact Nat.le_of_eq (Nat.add_comm _ _)

/-- What comes of octets is followed by what comes of the rest from the state between them, or by
the end of what is under way there. -/
theorem exists_run_append (s : State) (before : List UInt8) :
    ∃ out, run s before = out ++ finish (stateAfter s before) ∧
      ∀ after, run s (before ++ after) = out ++ run (stateAfter s before) after := by
  induction before generalizing s with
  | nil => exact ⟨[], rfl, fun _ => rfl⟩
  | cons b before ih =>
    obtain ⟨out, hself, hout⟩ := ih (step s b.toNat).2
    refine ⟨(step s b.toNat).1 ++ out, ?_, fun after => ?_⟩
    · rw [List.append_assoc, stateAfter, ← hself]
      rfl
    · rw [List.append_assoc, stateAfter, ← hout after]
      rfl

/-- Behind any octets only those that may go on with a character are asked for. -/
theorem belowStart_between (before : List UInt8) : (stateAfter .idle before).BelowStart :=
  belowStart_stateAfter (s := .idle) trivial before

/-- A cut loses no characters. -/
theorem length_decode_append_le (before after : List UInt8) :
    (decode (before ++ after)).length ≤ (decode before).length + (decode after).length := by
  obtain ⟨out, hself, hout⟩ := exists_run_append .idle before
  have hle := length_run_le after (belowStart_between before)
  simp only [decode, List.length_map, hout after, hself, List.length_append]
  omega

/-- Only a cut where no character goes on adds none. -/
theorem unbroken_of_length_decode_append {before after : List UInt8}
    (h : (decode before).length + (decode after).length ≤ (decode (before ++ after)).length) :
    Unbroken before after := by
  obtain ⟨out, hself, hout⟩ := exists_run_append .idle before
  have hbelow := belowStart_between before
  simp only [decode, List.length_map, hout after, hself, List.length_append] at h
  unfold Unbroken
  cases hstate : stateAfter .idle before with
  | idle => trivial
  | partway bits more lo hi =>
    cases after with
    | nil => trivial
    | cons b bs =>
      intro hin
      rw [hstate] at h hbelow
      have hle : (run (.partway bits more lo hi) (b :: bs)).length ≤ (run .idle (b :: bs)).length :=
        length_run_goesOn_le hbelow hin (length_run_le bs)
      simp only [finish, List.length_singleton] at h
      omega

/-- A character that is under way comes out in some way. -/
theorem run_partway_ne_nil {bits more lo hi : Nat} (bs : List UInt8) :
    run (.partway bits more lo hi) bs ≠ [] := by
  induction bs generalizing bits more lo hi with
  | nil => exact List.cons_ne_nil _ _
  | cons b bs ih =>
    by_cases hin : lo ≤ b.toNat ∧ b.toNat ≤ hi
    · by_cases hmore : 1 < more
      · rw [run_partway hmore hin.1 hin.2]
        exact ih
      · rw [run_partway_last (Nat.not_lt.1 hmore) hin.1 hin.2]
        exact List.cons_ne_nil _ _
    · rw [run_partway_break hin]
      exact List.cons_ne_nil _ _

/-- Nothing comes of no octets only. -/
theorem eq_nil_of_run_idle {bs : List UInt8} (h : run .idle bs = []) : bs = [] := by
  cases bs with
  | nil => rfl
  | cons b bs =>
    simp only [run, step, first] at h
    split_ifs at h <;> simp [run_partway_ne_nil] at h

/-! ### Texts in pieces -/

/-- Octets that are those of a text. -/
def IsText (bytes : List UInt8) : Prop := ∃ text, bytes = encode text

/-- No octets are those of the empty text. -/
theorem isText_nil : IsText [] := ⟨"", by rw [encode_eq_flatMap]; rfl⟩

/-- Octets that end where a character ends: they come out in the same way whatever follows. -/
def Whole (bytes : List UInt8) (out : List (Option Char)) : Prop :=
  ∀ rest, run .idle (bytes ++ rest) = out ++ run .idle rest

namespace Whole

variable {before after front back more : List UInt8} {out : List (Option Char)}

/-- More octets add something to what comes out. -/
theorem eq_nil (h : Whole before out) (hmore : Whole (before ++ more) out) : more = [] := by
  have hrun := hmore []
  rw [List.append_nil, h more] at hrun
  exact eq_nil_of_run_idle (List.append_cancel_left hrun)

/-- Octets are cut in one way only into a front that comes out as it does and the rest. -/
theorem unique (h : Whole before out) (hfront : Whole front out)
    (hsame : before ++ after = front ++ back) : before = front ∧ after = back := by
  rcases List.append_eq_append_iff.1 hsame with ⟨more, rfl, rfl⟩ | ⟨more, rfl, rfl⟩
  · obtain rfl := h.eq_nil hfront
    exact ⟨(List.append_nil _).symm, rfl⟩
  · obtain rfl := hfront.eq_nil h
    exact ⟨List.append_nil _, rfl⟩

end Whole

/-- A character that is under way at a cut where no character goes on is malformed. -/
theorem none_mem_run_of_unbroken {before after : List UInt8} (h : Unbroken before after)
    (hpartway : stateAfter .idle before ≠ .idle) :
    none ∈ run (stateAfter .idle before) after := by
  unfold Unbroken at h
  cases hstate : stateAfter .idle before with
  | idle => exact absurd hstate hpartway
  | partway bits more lo hi =>
    rw [hstate] at h
    cases after with
    | nil => exact List.mem_singleton_self _
    | cons b bs =>
      rw [run_partway_break h]
      exact List.mem_cons_self

/-- Where no character goes on, the octets of a text are cut into those of two texts. -/
theorem isText_of_unbroken {text : String} {before after : List UInt8}
    (htext : before ++ after = encode text) (h : Unbroken before after) :
    ∃ front back, text = front ++ back ∧ before = encode front ∧ after = encode back := by
  obtain ⟨out, -, hout⟩ := exists_run_append .idle before
  have hall : out ++ run (stateAfter .idle before) after = text.toList.map some := by
    rw [← hout after, htext]
    have hrun := run_encode_append text []
    rwa [List.append_nil, show run .idle [] = [] from rfl, List.append_nil] at hrun
  -- No character is under way at the cut, since none of the text is malformed.
  have hidle : stateAfter .idle before = .idle := by
    by_contra hpartway
    have hnone : none ∈ text.toList.map some :=
      hall ▸ List.mem_append_right out (none_mem_run_of_unbroken h hpartway)
    simp at hnone
  rw [hidle] at hall hout
  obtain ⟨cs, ds, hsplit, hcs, -⟩ := List.map_eq_append_iff.1 hall.symm
  have htext' : text = String.ofList cs ++ String.ofList ds := by
    rw [← String.ofList_append, ← hsplit, String.ofList_toList]
  have hfront : Whole (encode (String.ofList cs)) ((String.ofList cs).toList.map some) :=
    run_encode_append (String.ofList cs)
  rw [String.toList_ofList, hcs] at hfront
  -- The front comes out as the octets of its characters do, and so it is these octets.
  rw [htext', encode_append] at htext
  exact ⟨_, _, htext', Whole.unique hout hfront htext⟩

/-- Pieces have no fewer characters than the whole. -/
theorem length_decode_flatten_le (pieces : List (List UInt8)) :
    (decode pieces.flatten).length ≤ (pieces.flatMap decode).length := by
  induction pieces with
  | nil => exact Nat.le_refl _
  | cons piece pieces ih =>
    rw [List.flatten_cons, List.flatMap_cons, List.length_append]
    exact Nat.le_trans (length_decode_append_le piece pieces.flatten) (Nat.add_le_add_left ih _)

/-- Pieces that are texts are decoded to the text of the whole. -/
theorem flatMap_decode_of_isText {pieces : List (List UInt8)}
    (h : ∀ piece ∈ pieces, IsText piece) : pieces.flatMap decode = decode pieces.flatten := by
  induction pieces with
  | nil => rfl
  | cons piece pieces ih =>
    obtain ⟨⟨text, rfl⟩, hpieces⟩ := List.forall_mem_cons.1 h
    rw [List.flatMap_cons, List.flatten_cons, decode_encode_append, decode_encode, ih hpieces]

/-- Pieces of the octets of a text are decoded to the text exactly if each of them is the octets of
a text. -/
theorem flatMap_decode_eq_iff {pieces : List (List UInt8)} {text : String}
    (htext : pieces.flatten = encode text) :
    pieces.flatMap decode = text.toList ↔ ∀ piece ∈ pieces, IsText piece := by
  constructor
  · intro h
    induction pieces generalizing text with
    | nil => simp
    | cons piece pieces ih =>
      rw [List.flatten_cons] at htext
      -- The other pieces have no fewer characters than what they are cut from, so that the cut
      -- behind this piece adds none.
      have hlength : (decode piece).length + (decode pieces.flatten).length ≤
          (decode (piece ++ pieces.flatten)).length := by
        rw [htext, decode_encode, ← h, List.flatMap_cons, List.length_append]
        exact Nat.add_le_add_left (length_decode_flatten_le pieces) _
      obtain ⟨front, back, rfl, hfront, hback⟩ :=
        isText_of_unbroken htext (unbroken_of_length_decode_append hlength)
      rw [List.flatMap_cons, hfront, decode_encode, String.toList_append] at h
      exact List.forall_mem_cons.2 ⟨⟨front, hfront⟩, ih hback (List.append_cancel_left h)⟩
  · intro h
    rw [flatMap_decode_of_isText h, htext, decode_encode]

end BringUp.Text.Utf8
