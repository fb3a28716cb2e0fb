import BringUp.Proofs.Reply.Lines
import BringUp.Trace

/-!
# The one way to cut a text into lines

A text is spelled by lines, each with its end, and an unfinished line, and there is only one way to
do this with no line end inside a line. A splitter finds that way, however the text is cut into
chunks: a line end may be cut in two, and a carriage return or a line feed may stand alone.

* `wholeLines`, `unfinished`: the lines of a text that are whole, and what follows the last of them.
* `IsCut`, `isCut_iff`: the one way to cut a text.
* `Splitter.pushEach`, `Splitter.pushEach_eq_push`: chunks that are pushed one after the other.
* `Splitter.same_cut_of_any_chunks`: what comes of any chunks is the one cut of their text.
-/

namespace BringUp.Reply

/-! ### Whole lines and the unfinished line -/

/-- The unfinished line of a text: what follows its last line end. -/
def unfinished (text : String) : String := String.ofList (cutLines text.toList).2

/-- The unfinished line of a longer text is that of its own unfinished line, continued. -/
theorem unfinished_append (text more : String) :
    unfinished (text ++ more) = unfinished (unfinished text ++ more) := by
  simp only [unfinished, String.toList_append, String.toList_ofList]
  rw [cutLines_append]

/-- The lines of a text that are whole: a line end follows each of them. -/
def wholeLines (text : String) : List String := (cutLines text.toList).1.map String.ofList

/-- The whole lines of a longer text are those of its start, and those that the unfinished line of
the start becomes. -/
theorem wholeLines_append (text more : String) :
    wholeLines (text ++ more) = wholeLines text ++ wholeLines (unfinished text ++ more) := by
  simp only [wholeLines, unfinished, String.toList_append, String.toList_ofList]
  rw [cutLines_append, List.map_append]

/-- An unfinished line has no whole line. -/
theorem wholeLines_unfinished (text : String) : wholeLines (unfinished text) = [] := by
  rw [wholeLines, unfinished, String.toList_ofList, cutLines_rest, List.map_nil]

/-- No whole line has a line end in it. -/
theorem not_lineEnd_infix_of_whole {text : String} :
    ∀ line ∈ wholeLines text, ¬ ['\r', '\n'] <:+: line.toList := by
  intro line hline
  obtain ⟨cs, hcs, rfl⟩ := List.mem_map.1 hline
  rw [String.toList_ofList]
  exact not_lineEnd_infix_of_mem cs hcs

/-- The characters of lines with their ends and of a rest. -/
theorem toList_join_lineEnd (lines : List String) (rest : String) :
    (String.join (lines.map (· ++ lineEnd)) ++ rest).toList =
      spell (lines.map String.toList) rest.toList := by
  simp [spell, String.toList_join, List.flatMap_map, lineEnd]

/-- The whole lines, each with its end, and the unfinished line spell a text. -/
theorem join_wholeLines (text : String) :
    String.join ((wholeLines text).map (· ++ lineEnd)) ++ unfinished text = text := by
  have hlines : (wholeLines text).map String.toList = (cutLines text.toList).1 := by
    simp [wholeLines]
  apply String.toList_injective
  rw [toList_join_lineEnd, hlines, unfinished, String.toList_ofList, cutLines_spell]

/-! ### The one way to cut a text -/

/-- Lines and a rest into which a text may be cut. -/
structure IsCut (text : String) (lines : List String) (rest : String) : Prop where
  /-- The lines, each with its end, and the rest spell the text. -/
  spelled : String.join (lines.map (· ++ lineEnd)) ++ rest = text
  /-- No line has a line end in it. -/
  lines_free : ∀ line ∈ lines, ¬ lineEnd.toList <:+: line.toList
  /-- The rest has none either. -/
  rest_free : ¬ lineEnd.toList <:+: rest.toList

/-- A text is cut into its whole lines and its unfinished line, and in no other way. -/
theorem isCut_iff {text rest : String} {lines : List String} :
    IsCut text lines rest ↔ lines = wholeLines text ∧ rest = unfinished text := by
  have hend : lineEnd.toList = ['\r', '\n'] := rfl
  constructor
  · rintro ⟨rfl, hlines, hrest⟩
    have hcut : cutLines (spell (lines.map String.toList) rest.toList) =
        (lines.map String.toList, rest.toList) :=
      cutLines_spell_of_free (List.forall_mem_map.2 hlines) hrest
    rw [wholeLines, unfinished, toList_join_lineEnd, hcut]
    simp
  · rintro ⟨rfl, rfl⟩
    refine ⟨join_wholeLines text, not_lineEnd_infix_of_whole, ?_⟩
    rw [unfinished, String.toList_ofList, hend]
    exact not_lineEnd_infix_rest text.toList

/-! ### Chunks -/

/-- Adds chunks, one after the other: the lines that they complete, and the splitter after them. -/
def Splitter.pushEach : List String → Splitter → List String × Splitter
  | [], s => ([], s)
  | chunk :: chunks, s =>
    let (lines, s) := s.push chunk
    let (more, s) := s.pushEach chunks
    (lines ++ more, s)

namespace Splitter

/-- A splitter gives the whole lines of what it held and is given. -/
theorem lines_push (chunk : String) (s : Splitter) :
    (s.push chunk).1 = wholeLines (s.pending ++ chunk) := by
  simp [push, wholeLines]

/-- It keeps the unfinished line of that. -/
theorem pending_push (chunk : String) (s : Splitter) :
    (s.push chunk).2.pending = unfinished (s.pending ++ chunk) := by
  simp [push, unfinished]

/-- A text that comes in two parts gives the lines of the whole text. -/
theorem push_append (text more : String) (s : Splitter) :
    s.push (text ++ more) =
      ((s.push text).1 ++ ((s.push text).2.push more).1, ((s.push text).2.push more).2) := by
  simp only [push, String.toList_append, String.toList_ofList, ← List.append_assoc]
  rw [cutLines_append, List.map_append]

theorem pushEach_append (chunks more : List String) (s : Splitter) :
    s.pushEach (chunks ++ more) =
      ((s.pushEach chunks).1 ++ ((s.pushEach chunks).2.pushEach more).1,
        ((s.pushEach chunks).2.pushEach more).2) := by
  induction chunks generalizing s with
  | nil => rfl
  | cons chunk chunks ih => simp only [List.cons_append, pushEach, ih, List.append_assoc]

/-- Chunks that are given one after the other count as their text at once, if the splitter holds no
whole line. After its first chunk it holds none in any case. -/
theorem pushEach_eq_push (chunks : List String) {s : Splitter} (hs : wholeLines s.pending = []) :
    s.pushEach chunks = s.push (String.join chunks) := by
  induction chunks generalizing s with
  | nil =>
    -- Nothing is pushed, and so nothing may be cut off what the splitter holds.
    have hlines : (s.push "").1 = [] := by rw [lines_push, String.append_empty, hs]
    have hpending : (s.push "").2.pending = s.pending := by
      have hjoin := join_wholeLines s.pending
      rw [hs] at hjoin
      rw [pending_push, String.append_empty]
      simpa using hjoin
    exact Prod.ext hlines.symm (congrArg Splitter.mk hpending.symm)
  | cons chunk chunks ih =>
    -- Whatever a chunk is put behind, only an unfinished line is left.
    have hheld : wholeLines (s.push chunk).2.pending = [] := by
      rw [pending_push, wholeLines_unfinished]
    rw [String.join_cons, push_append, pushEach]
    simp only [ih hheld]

/-- However a text comes in chunks, a new splitter gives the same lines and keeps the same rest as
when it is given the whole text at once. No line and no rest has a line end in it, the lines with
their ends and the rest spell the text, and nothing else has these two properties. So it does not
matter whether a line end is cut in two, or where a lone carriage return or line feed stands. -/
theorem same_cut_of_any_chunks (chunks : List String) :
    let text := String.join chunks
    let cut := ({} : Splitter).pushEach chunks
    cut = ({} : Splitter).push text ∧
    (∀ chunks' : List String, String.join chunks' = text →
      ({} : Splitter).pushEach chunks' = cut) ∧
    IsCut text cut.1 cut.2.pending ∧
    ∀ lines rest, IsCut text lines rest → lines = cut.1 ∧ rest = cut.2.pending := by
  intro text cut
  have hnew (chunks' : List String) :
      ({} : Splitter).pushEach chunks' = ({} : Splitter).push (String.join chunks') :=
    pushEach_eq_push chunks' rfl
  have hlines : cut.1 = wholeLines text := by
    rw [show cut = _ from hnew chunks, lines_push, String.empty_append]
  have hpending : cut.2.pending = unfinished text := by
    rw [show cut = _ from hnew chunks, pending_push, String.empty_append]
  refine ⟨hnew chunks, ?_, isCut_iff.2 ⟨hlines, hpending⟩, ?_⟩
  · intro chunks' htext
    rw [hnew chunks', htext]
    exact (hnew chunks).symm
  · intro lines rest hcut
    rw [hlines, hpending]
    exact isCut_iff.1 hcut

/-- A second carriage return belongs to the line, and the line end behind it may be cut in two. -/
example : ({} : Splitter).pushEach ["a\r", "\r", "", "\nb\n\rc\r", "\n\r"] =
    (["a\r", "b\n\rc"], { pending := "\r" }) := by decide

end Splitter

end BringUp.Reply
