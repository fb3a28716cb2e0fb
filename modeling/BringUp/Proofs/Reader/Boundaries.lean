import BringUp.Proofs.Reader.Forwarding
import BringUp.Proofs.Text.Decoding

/-!
# Where a reader may cut a text

What is read is decoded read by read. A text comes out of the reads as it was if no read ends inside
of a character, and only then; the lines are those of the text that came out.

* `record_of_pumpedOut`: what a stream holds when all that a reader forwards has been taken.
* `transcript_eq_iff_isText`: which reads leave a text as it is.
* `split_character_lost`: a character that is split between two reads is lost.
-/

namespace BringUp.Reader

open Reply (Arrival Stream wholeLines)
open Text.Utf8 (IsText)

/-- The text of an arrival is that of its octets. -/
theorem text_eq (a : Arrival) : a.text.toList = Text.Utf8.decode (octetsOf a) := by
  cases a with
  | data bytes => exact String.toList_ofList
  | closed => rfl

/-- The text of what arrives is put together from the texts of the reads. -/
theorem toList_join_arrivals (source : List Read) :
    (String.join ((arrivals source).map Arrival.text)).toList =
      ((arrivals source).map octetsOf).flatMap Text.Utf8.decode := by
  simp only [String.toList_join, List.flatMap_map, text_eq]

/-- The pieces in which a text arrives are texts if the data is. -/
theorem forall_mem_map_octetsOf {source : List Read} :
    (∀ piece ∈ (arrivals source).map octetsOf, IsText piece) ↔
      ∀ bytes, .data bytes ∈ arrivals source → IsText bytes := by
  rw [List.forall_mem_map]
  constructor
  · exact fun h bytes hmem => h (.data bytes) hmem
  · intro h a hmem
    cases a with
    | data bytes => exact h bytes hmem
    | closed => exact Text.Utf8.isText_nil

variable {delays : Nat → Nat} {source : List Read}

/-- What a new stream holds when all that a reader forwards has been taken: the text of the reads,
and the whole lines of it if a wait is armed. -/
theorem record_of_pumpedOut (hdelays : Monotone delays) {l : Link} {armed : Bool}
    (hnew : l.replies = { armed }) {now : Nat} {s' : Stream}
    (h : Stream.PumpedOut now (l.emit now (forward delays source)).replies s') :
    s'.transcript = String.join ((arrivals source).map Arrival.text) ∧
      s'.lines = if armed then wholeLines s'.transcript else [] := by
  obtain ⟨-, later, htaken⟩ :=
    takes_of_pumpedOut_emit hdelays (by rw [hnew]) (by rw [hnew]) h
  rw [hnew] at htaken
  have htext : s'.transcript = Reply.textOf (timed now delays source) := by
    rw [htaken.transcript_eq]
    exact String.empty_append
  have hwhole := (({} : Reply.Splitter).pushAll_eq (timed now delays source) "" rfl).1
  rw [String.empty_append, ← htext] at hwhole
  refine ⟨htext.trans (textOf_timed now delays source), ?_⟩
  rw [htaken.lines_eq, hwhole]
  rfl

/-- However the octets of a text are read, in whatever time and with whatever failures that pass, a
link that is pumped until it is closed has recorded the text as it is exactly if no read ends inside
of a character, so that each one is a text itself. If a wait is armed it is given the whole lines of
what has been recorded. -/
theorem transcript_eq_iff_isText (hdelays : Monotone delays) {text : String}
    (hread : octetsRead source = Text.Utf8.encode text) (name : String) (device : Device)
    (now : Nat) (armed : Bool) :
    let link : Link := { name, device, replies := { armed } }
    let s := (link.emit now (forward delays source)).replies
    (∃ s', s.PumpedOut now s') ∧
    ∀ s', s.PumpedOut now s' → s'.closed = true ∧
      (s'.transcript = text ↔ ∀ bytes, .data bytes ∈ arrivals source → IsText bytes) ∧
      s'.lines = if armed then wholeLines s'.transcript else [] := by
  intro link s
  refine ⟨exists_pumpedOut_emit hdelays rfl, fun s' hs' => ?_⟩
  obtain ⟨htranscript, hlines⟩ := record_of_pumpedOut hdelays (l := link) rfl hs'
  refine ⟨hs'.closed, ?_, hlines⟩
  have hpieces : ((arrivals source).map octetsOf).flatten = Text.Utf8.encode text := by
    rw [← List.flatMap_def, octets_arrivals, hread]
  rw [htranscript, ← forall_mem_map_octetsOf, ← Text.Utf8.flatMap_decode_eq_iff hpieces,
    ← toList_join_arrivals, String.toList_inj]

/-- A line with a character of two octets, which are read together. -/
theorem whole_character_kept :
    let source := [Read.data [0xC3, 0xA9], .failed .timedOut, .data [13], .data [10, 33]]
    let link : Link := { name := "COM1", device := default, replies := { armed := true } }
    Monotone (fun n : Nat => 100 * n) ∧ octetsRead source = Text.Utf8.encode "é\r\n!" ∧
      ∃ s', Stream.PumpedOut 5 (link.emit 5 (forward (fun n => 100 * n) source)).replies s' ∧
        s'.transcript = "é\r\n!" ∧ s'.lines = ["é"] := by
  intro source link
  have hdelays : Monotone (fun n : Nat => 100 * n) := fun _ _ h => Nat.mul_le_mul_left 100 h
  have hread : octetsRead source = Text.Utf8.encode "é\r\n!" := by
    rw [Text.Utf8.encode_eq_flatMap]
    decide
  obtain ⟨⟨s', hs'⟩, hall⟩ :=
    transcript_eq_iff_isText hdelays hread "COM1" default 5 true
  obtain ⟨-, hiff, hlines⟩ := hall s' hs'
  have hwhole : s'.transcript = "é\r\n!" := by
    refine hiff.2 fun bytes hbytes => ?_
    have hcases : bytes = [0xC3, 0xA9] ∨ bytes = [13] ∨ bytes = [10, 33] := by
      simpa [source, arrivals, blocks, blockSize, ReadFailure.isPassing] using hbytes
    rcases hcases with rfl | rfl | rfl
    · exact ⟨"é", by rw [Text.Utf8.encode_eq_flatMap]; decide⟩
    · exact ⟨"\r", by rw [Text.Utf8.encode_eq_flatMap]; decide⟩
    · exact ⟨"\n!", by rw [Text.Utf8.encode_eq_flatMap]; decide⟩
  rw [hwhole] at hlines
  exact ⟨hdelays, hread, s', hs', hwhole, hlines.trans (by decide)⟩

/-- A character that is split between two reads is lost: its octets are read one by one, and two
malformed characters are recorded. -/
theorem split_character_lost :
    ¬ ∀ (source : List Read) (text : String) (s' : Stream),
      octetsRead source = Text.Utf8.encode text →
      let link : Link := { name := "COM1", device := default }
      Stream.PumpedOut 0 (link.emit 0 (forward (fun _ => 0) source)).replies s' →
        s'.transcript = text := by
  intro h
  have hdelays : Monotone fun _ : Nat => 0 := monotone_const
  let link : Link := { name := "COM1", device := default }
  obtain ⟨s', hs'⟩ : ∃ s', Stream.PumpedOut 0
      (link.emit 0 (forward (fun _ => 0) [.data [0xC3], .data [0xA9]])).replies s' :=
    exists_pumpedOut_emit hdelays rfl
  have hread : octetsRead [.data [0xC3], .data [0xA9]] = Text.Utf8.encode "é" := by
    rw [Text.Utf8.encode_eq_flatMap]
    decide
  have harrivals : arrivals [.data [0xC3], .data [0xA9]] =
      [.data [0xC3], .data [0xA9], .closed] := by
    simp [arrivals, blocks, blockSize]
  have hkept := h _ "é" s' hread hs'
  rw [(record_of_pumpedOut hdelays rfl hs').1, harrivals] at hkept
  exact absurd hkept (by decide)

end BringUp.Reader
