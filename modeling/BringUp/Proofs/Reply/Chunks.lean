import BringUp.Reply.Inbox
import BringUp.Text.Utf8
import Mathlib.Tactic.SplitIfs

/-!
# How a text is cut into chunks

A device may send a text in one chunk, or in several ones that arrive at the same moment.

* `Text.Utf8.decode_append`: octets that are cut where no character goes on are decoded piece by
  piece.
* `Cut`: a chunk in several pieces, none of which breaks a character.
* `Finer`: the same arrivals in finer chunks.
* `Inbox.Finer.postAll`: what is sent in finer chunks arrives in finer chunks.
-/

namespace BringUp.Text.Utf8

/-- The state between the octets of a text and those that follow. -/
def stateAfter : State → List UInt8 → State
  | s, [] => s
  | s, b :: bs => stateAfter (step s b.toNat).2 bs

/-- No character goes on behind a place in a text: there none is under way, or the next octet cannot
continue it, so that what has come of it is malformed in any case. -/
def Unbroken (before after : List UInt8) : Prop :=
  match stateAfter .idle before, after with
  | .idle, _ => True
  | .partway .., [] => True
  | .partway _ _ lo hi, b :: _ => ¬ (lo ≤ b.toNat ∧ b.toNat ≤ hi)

/-- An octet that goes on with a character is none of ASCII. -/
def State.AboveAscii : State → Prop
  | .idle => True
  | .partway _ _ lo _ => 0x80 ≤ lo

theorem aboveAscii_first (b : Nat) : (first b).2.AboveAscii := by
  unfold first
  split_ifs <;> simp [State.AboveAscii]

/-- Whatever octets come, only one above ASCII goes on with the character then. -/
theorem aboveAscii_stateAfter {s : State} (hs : s.AboveAscii) (bs : List UInt8) :
    (stateAfter s bs).AboveAscii := by
  induction bs generalizing s with
  | nil => exact hs
  | cons b bs ih =>
    refine ih ?_
    cases s with
    | idle => exact aboveAscii_first b.toNat
    | partway bits more lo hi =>
      -- A character that goes on asks for octets from 0x80 on; one that breaks off starts anew.
      rw [step]
      split_ifs
      · trivial
      · exact Nat.le_refl 0x80
      · exact aboveAscii_first b.toNat

namespace Unbroken

/-- No character goes on behind no octets. -/
theorem nil_left (after : List UInt8) : Unbroken [] after := trivial

/-- No character goes on with ASCII, so octets may be cut before every line end, and inside it. -/
theorem of_ascii (before : List UInt8) {b : UInt8} (hb : b.toNat < 0x80) (after : List UInt8) :
    Unbroken before (b :: after) := by
  have habove := aboveAscii_stateAfter (s := .idle) trivial before
  unfold Unbroken
  cases hstate : stateAfter .idle before with
  | idle => trivial
  | partway bits more lo hi =>
    have hlo : 0x80 ≤ lo := by rwa [hstate] at habove
    show ¬ (lo ≤ b.toNat ∧ b.toNat ≤ hi)
    omega

end Unbroken

/-- Reading goes on behind a place from the state there, if the end is put off. -/
theorem run_append (s : State) (as bs : List UInt8)
    (h : run (stateAfter s as) bs = finish (stateAfter s as) ++ run .idle bs) :
    run s (as ++ bs) = run s as ++ run .idle bs := by
  induction as generalizing s with
  | nil => exact h
  | cons a as ih =>
    -- The first octet leads to another state, but to the same one at the place of the cut.
    have htail := ih (step s a.toNat).2 h
    show (step s a.toNat).1 ++ run (step s a.toNat).2 (as ++ bs) =
      ((step s a.toNat).1 ++ run (step s a.toNat).2 as) ++ run .idle bs
    rw [htail, List.append_assoc]

/-- Octets that are cut where no character goes on are decoded piece by piece. -/
theorem decode_append {before after : List UInt8} (h : Unbroken before after) :
    decode (before ++ after) = decode before ++ decode after := by
  have hrun : run .idle (before ++ after) = run .idle before ++ run .idle after := by
    apply run_append
    unfold Unbroken at h
    cases hstate : stateAfter .idle before with
    | idle => rfl
    | partway bits more lo hi =>
      cases after with
      | nil => rfl
      | cons b bs =>
        -- The octet breaks off the character under way, which counts as one malformed character.
        rw [hstate] at h
        have hbreak : ¬ (decide (lo ≤ b.toNat) && decide (b.toNat ≤ hi)) = true := by
          simpa using h
        simp only [run, step, finish, if_neg hbreak, List.cons_append, List.nil_append]
  rw [decode, hrun, List.map_append]
  rfl

end BringUp.Text.Utf8

namespace BringUp.Reply

/-! ### Finer chunks -/

/-- A chunk of octets in one or more pieces, none of which breaks a character: the text of the chunk
is that of the pieces, one after the other. -/
structure Cut (bytes : List UInt8) (pieces : List (List UInt8)) : Prop where
  /-- There is a piece, which may be empty. -/
  exists_piece : pieces ≠ []
  /-- The pieces are the chunk. -/
  flatten_eq : pieces.flatten = bytes
  /-- No character is broken. -/
  decode_eq : pieces.flatMap Text.Utf8.decode = Text.Utf8.decode bytes

namespace Cut

/-- A chunk is a piece of itself. -/
theorem self (bytes : List UInt8) : Cut bytes [bytes] where
  exists_piece := List.cons_ne_nil _ _
  flatten_eq := by simp
  decode_eq := by simp

/-- A chunk may be cut wherever no character goes on, as often as one likes. -/
theorem cons {before after : List UInt8} {pieces : List (List UInt8)}
    (h : Text.Utf8.Unbroken before after) (hafter : Cut after pieces) :
    Cut (before ++ after) (before :: pieces) where
  exists_piece := List.cons_ne_nil _ _
  flatten_eq := by rw [List.flatten_cons, hafter.flatten_eq]
  decode_eq := by rw [List.flatMap_cons, hafter.decode_eq, Text.Utf8.decode_append h]

/-- A line end in two pieces, and an empty one between them. -/
example : Cut [0x0D, 0x0A] [[0x0D], [], [0x0A]] :=
  .cons (.of_ascii [0x0D] (by decide) []) (.cons (.nil_left [0x0A]) (.self [0x0A]))

end Cut

/-- Pieces that arrive at the same time. -/
def piecesAt (time : Nat) (pieces : List (List UInt8)) : List (Nat × Arrival) :=
  pieces.map fun piece => (time, .data piece)

/-- The same arrivals in finer chunks: where there is one chunk in the first list there are one or
more in the second one, at the same time. -/
inductive Finer : List (Nat × Arrival) → List (Nat × Arrival) → Prop where
  /-- Nothing arrives. -/
  | nil : Finer [] []
  /-- A close is a close. -/
  | close (time : Nat) {rest rest' : List (Nat × Arrival)} : Finer rest rest' →
      Finer ((time, .closed) :: rest) ((time, .closed) :: rest')
  /-- A chunk is cut. -/
  | cut (time : Nat) {bytes : List UInt8} {pieces : List (List UInt8)}
      {rest rest' : List (Nat × Arrival)} : Cut bytes pieces → Finer rest rest' →
      Finer ((time, .data bytes) :: rest) (piecesAt time pieces ++ rest')

namespace Finer

variable {arrivals arrivals' more more' : List (Nat × Arrival)}

/-- Arrivals are as fine as they are. -/
theorem refl (arrivals : List (Nat × Arrival)) : Finer arrivals arrivals := by
  induction arrivals with
  | nil => exact .nil
  | cons arrival rest ih =>
    obtain ⟨time, a⟩ := arrival
    cases a with
    | closed => exact .close time ih
    | data bytes => exact .cut time (.self bytes) ih

/-- More arrives. -/
theorem append (h : Finer arrivals arrivals') (hmore : Finer more more') :
    Finer (arrivals ++ more) (arrivals' ++ more') := by
  induction h with
  | nil => exact hmore
  | close time _ ih => exact .close time ih
  | cut time hcut _ ih =>
    rw [List.append_assoc]
    exact .cut time hcut ih

end Finer

/-! ### Sending in finer chunks -/

/-- Arrivals, parted into those that are due by some time and those behind them. -/
structure Parted (due : Nat) (early late : List (Nat × Arrival)) : Prop where
  /-- The first ones are due no later. -/
  early_le : ∀ arrival ∈ early, arrival.1 ≤ due
  /-- The next one is due later. -/
  lt_late : ∀ arrival ∈ late.head?, due < arrival.1

namespace Parted

variable {due : Nat} {early late : List (Nat × Arrival)}

/-- One more arrival that is due no later. -/
theorem cons (h : Parted due early late) {arrival : Nat × Arrival} (hdue : arrival.1 ≤ due) :
    Parted due (arrival :: early) late where
  early_le := List.forall_mem_cons.2 ⟨hdue, h.early_le⟩
  lt_late := h.lt_late

/-- More arrivals, at the time that parts them. -/
theorem append (h : Parted due early late) {more : List (Nat × Arrival)}
    (hmore : ∀ arrival ∈ more, arrival.1 = due) : Parted due (early ++ more) late where
  early_le arrival hmem := (List.mem_append.1 hmem).elim (h.early_le arrival) fun hmem =>
    Nat.le_of_eq (hmore arrival hmem)
  lt_late := h.lt_late

/-- What is sent comes between what is due no later and what is due later. -/
theorem schedule_eq (h : Parted due early late) (a : Arrival) :
    schedule due a (early ++ late) = early ++ (due, a) :: late := by
  induction early with
  | nil =>
    cases late with
    | nil => rfl
    | cons arrival late =>
      have hlater : due < arrival.1 := h.lt_late arrival rfl
      exact if_neg (Nat.not_le.2 hlater)
  | cons arrival early ih =>
    -- Of two things that are due at the same time, the one that was sent first stays first.
    have hdue : arrival.1 ≤ due := h.early_le arrival List.mem_cons_self
    have hrest : Parted due early late :=
      ⟨fun other hmem => h.early_le other (List.mem_cons_of_mem _ hmem), h.lt_late⟩
    show (if arrival.1 ≤ due then arrival :: schedule due a (early ++ late) else _) = _
    rw [if_pos hdue, ih hrest, List.cons_append]

end Parted

/-- The time of pieces. -/
theorem time_of_mem_piecesAt {time : Nat} {pieces : List (List UInt8)} :
    ∀ arrival ∈ piecesAt time pieces, arrival.1 = time := by
  simp [piecesAt]

/-- Arrivals and finer ones are parted at the same places. -/
theorem Finer.exists_parted {arrivals arrivals' : List (Nat × Arrival)}
    (h : Finer arrivals arrivals') (due : Nat) : ∃ early late early' late',
    arrivals = early ++ late ∧ arrivals' = early' ++ late' ∧ Finer early early' ∧
      Finer late late' ∧ Parted due early late ∧ Parted due early' late' := by
  induction h with
  | nil => exact ⟨[], [], [], [], rfl, rfl, .nil, .nil, ⟨by simp, by simp⟩, ⟨by simp, by simp⟩⟩
  | @close time rest rest' hrest ih =>
    by_cases hdue : time ≤ due
    · obtain ⟨early, late, early', late', rfl, rfl, hearly, hlate, hpart, hpart'⟩ := ih
      exact ⟨_, late, _, late', rfl, rfl, .close time hearly, hlate, hpart.cons hdue,
        hpart'.cons hdue⟩
    · have hlater : due < time := Nat.not_le.1 hdue
      exact ⟨[], _, [], _, rfl, rfl, .nil, .close time hrest, ⟨by simp, by simpa using hlater⟩,
        ⟨by simp, by simpa using hlater⟩⟩
  | @cut time bytes pieces rest rest' hcut hrest ih =>
    -- All pieces arrive when the chunk does, so that they are on the same side.
    by_cases hdue : time ≤ due
    · obtain ⟨early, late, early', late', rfl, rfl, hearly, hlate, hpart, hpart'⟩ := ih
      refine ⟨_, late, piecesAt time pieces ++ early', late', rfl,
        (List.append_assoc _ _ _).symm, .cut time hcut hearly, hlate, hpart.cons hdue, ?_⟩
      refine ⟨fun arrival hmem => ?_, hpart'.lt_late⟩
      cases List.mem_append.1 hmem with
      | inl hpiece => exact time_of_mem_piecesAt arrival hpiece ▸ hdue
      | inr hrest => exact hpart'.early_le arrival hrest
    · have hlater : due < time := Nat.not_le.1 hdue
      obtain ⟨piece, more, rfl⟩ := List.exists_cons_of_ne_nil hcut.exists_piece
      exact ⟨[], _, [], _, rfl, rfl, .nil, .cut time hcut hrest, ⟨by simp, by simpa using hlater⟩,
        ⟨by simp, by simpa [piecesAt] using hlater⟩⟩

namespace Inbox

/-- The device sends some things, each with its delay. -/
def postAll (now : Nat) (sent : List (Nat × Arrival)) (i : Inbox) : Inbox :=
  sent.foldl (fun i arrival => i.post now arrival.1 arrival.2) i

theorem postAll_cons (now : Nat) (arrival : Nat × Arrival) (sent : List (Nat × Arrival))
    (i : Inbox) :
    i.postAll now (arrival :: sent) = (i.post now arrival.1 arrival.2).postAll now sent := rfl

theorem postAll_append (now : Nat) (sent more : List (Nat × Arrival)) (i : Inbox) :
    i.postAll now (sent ++ more) = (i.postAll now sent).postAll now more :=
  List.foldl_append

/-- A device that has hung up sends nothing. -/
theorem postAll_of_hungUp {i : Inbox} (hup : i.hungUp = true) (now : Nat)
    (sent : List (Nat × Arrival)) : i.postAll now sent = i := by
  induction sent with
  | nil => rfl
  | cons arrival sent ih =>
    have hpost : i.post now arrival.1 arrival.2 = i := by rw [post, if_pos hup]
    rw [postAll_cons, hpost, ih]

/-- Pieces that are sent at once stay together. -/
theorem postAll_piecesAt {now delay : Nat} {early late : List (Nat × Arrival)}
    (h : Parted (now + delay) early late) (pieces : List (List UInt8)) :
    ({ arrivals := early ++ late } : Inbox).postAll now (piecesAt delay pieces) =
      { arrivals := early ++ (piecesAt (now + delay) pieces ++ late) } := by
  induction pieces generalizing early with
  | nil => rfl
  | cons piece pieces ih =>
    -- The first piece is behind all that is due no later, and so the others come behind it.
    have hpart : Parted (now + delay) (early ++ [(now + delay, .data piece)]) late :=
      h.append (by simp)
    calc ({ arrivals := early ++ late } : Inbox).postAll now (piecesAt delay (piece :: pieces))
        = Inbox.postAll now (piecesAt delay pieces)
            { arrivals := schedule (now + delay) (.data piece) (early ++ late) } := rfl
      _ = Inbox.postAll now (piecesAt delay pieces)
            { arrivals := (early ++ [(now + delay, .data piece)]) ++ late } := by
          rw [h.schedule_eq, List.append_assoc]
          rfl
      _ = { arrivals := early ++ (piecesAt (now + delay) (piece :: pieces) ++ late) } := by
          rw [ih hpart, List.append_assoc]
          rfl

/-- An inbox in which the same arrives in finer chunks. -/
structure Finer (coarse fine : Inbox) : Prop where
  /-- What arrives. -/
  arrivals : Reply.Finer coarse.arrivals fine.arrivals
  /-- Both devices have hung up, or neither. -/
  hungUp : fine.hungUp = coarse.hungUp

namespace Finer

variable {coarse fine : Inbox}

/-- The device hangs up in both. -/
theorem hangUp (h : Finer coarse fine) : Finer coarse.hangUp fine.hangUp where
  arrivals := h.arrivals
  hungUp := rfl

/-- What a device sends in finer chunks is in the inbox in finer chunks. -/
theorem postAll (h : Finer coarse fine) {sent sent' : List (Nat × Arrival)}
    (hsent : Reply.Finer sent sent') (now : Nat) :
    Finer (coarse.postAll now sent) (fine.postAll now sent') := by
  cases hup : coarse.hungUp with
  | true =>
    have hup' : fine.hungUp = true := h.hungUp.trans hup
    rwa [postAll_of_hungUp hup, postAll_of_hungUp hup']
  | false =>
    obtain ⟨arrivals, hungUp⟩ := coarse
    obtain ⟨arrivals', hungUp'⟩ := fine
    have harrivals : Reply.Finer arrivals arrivals' := h.arrivals
    have hup' : hungUp' = false := h.hungUp.trans hup
    clear h
    subst hup hup'
    -- Each thing that is sent is put at the same place of both inboxes.
    induction hsent generalizing arrivals arrivals' with
    | nil => exact ⟨harrivals, rfl⟩
    | @close delay sent sent' _ ih =>
      obtain ⟨early, late, early', late', rfl, rfl, hearly, hlate, hpart, hpart'⟩ :=
        harrivals.exists_parted (now + delay)
      have hput := ih _ _ (hearly.append (.close (now + delay) hlate))
      rw [← hpart.schedule_eq, ← hpart'.schedule_eq] at hput
      exact hput
    | @cut delay bytes pieces sent sent' hcut _ ih =>
      obtain ⟨early, late, early', late', rfl, rfl, hearly, hlate, hpart, hpart'⟩ :=
        harrivals.exists_parted (now + delay)
      have hput := ih _ _ (hearly.append (.cut (now + delay) hcut hlate))
      rw [← hpart.schedule_eq] at hput
      rw [postAll_append, postAll_piecesAt hpart']
      exact hput

end Finer

end Inbox

end BringUp.Reply
