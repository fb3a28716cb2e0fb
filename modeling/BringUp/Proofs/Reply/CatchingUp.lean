import BringUp.Proofs.Reply.Chunks
import BringUp.Proofs.Reply.Race

/-!
# Streams that catch up

A wait on finer chunks can be over while some of them are still to come, where the coarse chunk has
been taken as a whole. So a stream of finer chunks may lag behind, and the two are not the same
between two operations. But nothing is lost: when both streams are drained, they hold the same, and
the same is still to come.

* `Stream.Alike`: two streams that hold the same, one of which gets the rest in finer chunks.
* `Stream.CatchesUp`: two streams that are alike as soon as both are drained.
* `Stream.Takes.drain_eq`: it does not matter what is taken before a stream is drained.
* `Stream.CatchesUp.arm`, `Stream.CatchesUp.postAll`: the two streams in a request.
* `Stream.Alike.await`: a wait ends in the same way and at the same time, and the streams catch up.
-/

namespace BringUp.Reply

/-- The text of pieces, one after the other. -/
def textOfPieces (pieces : List (List UInt8)) : String :=
  String.join (pieces.map Text.Utf8.text)

@[simp]
theorem textOfPieces_cons (piece : List UInt8) (pieces : List (List UInt8)) :
    textOfPieces (piece :: pieces) = Text.Utf8.text piece ++ textOfPieces pieces :=
  String.join_cons

/-- The text of a chunk is that of its pieces. -/
theorem Cut.text_eq {bytes : List UInt8} {pieces : List (List UInt8)} (h : Cut bytes pieces) :
    textOfPieces pieces = Text.Utf8.text bytes := by
  have hjoin : (textOfPieces pieces).toList = pieces.flatMap Text.Utf8.decode := by
    simp [textOfPieces, String.toList_join, List.flatMap_map, Text.Utf8.text]
  rw [Text.Utf8.text, ← h.decode_eq, ← hjoin, String.ofList_toList]

/-! ### What is to come -/

/-- A piece completes its lines when the others do. -/
theorem timedLines_piecesAt (time : Nat) (piece : List UInt8) (pieces : List (List UInt8))
    (pending : String) (now : Nat) (rest : List (Nat × Arrival)) :
    timedLines pending now (piecesAt time (piece :: pieces) ++ rest) =
      (({ pending } : Splitter).push (textOfPieces (piece :: pieces))).1.map (max now time, ·) ++
        timedLines (({ pending } : Splitter).push (textOfPieces (piece :: pieces))).2.pending
          (max now time) rest := by
  induction pieces generalizing piece pending now with
  | nil => simp [piecesAt, timedLines, textOfPieces, String.join]
  | cons next pieces ih =>
    have hstep : timedLines pending now (piecesAt time (piece :: next :: pieces) ++ rest) =
        (({ pending } : Splitter).push (Text.Utf8.text piece)).1.map (max now time, ·) ++
          timedLines (({ pending } : Splitter).push (Text.Utf8.text piece)).2.pending
            (max now time) (piecesAt time (next :: pieces) ++ rest) := rfl
    -- The first piece brings the time of all, and its unfinished line is completed by the others.
    have htime : max (max now time) time = max now time :=
      Nat.max_eq_left (Nat.le_max_right now time)
    rw [hstep, ih, htime, textOfPieces_cons piece, Splitter.push_append, List.map_append,
      List.append_assoc]

/-- The lines that are to come do not depend on how the chunks are cut. -/
theorem Finer.timedLines_eq {arrivals arrivals' : List (Nat × Arrival)}
    (h : Finer arrivals arrivals') (pending : String) (now : Nat) :
    timedLines pending now arrivals' = timedLines pending now arrivals := by
  induction h generalizing pending now with
  | nil => rfl
  | close time _ _ => rfl
  | @cut time bytes pieces rest rest' hcut _ ih =>
    obtain ⟨piece, pieces, rfl⟩ := List.exists_cons_of_ne_nil hcut.exists_piece
    rw [timedLines_piecesAt, ih, hcut.text_eq]
    rfl

/-- Neither does the end of the connection depend on it. -/
theorem Finer.closeTime?_eq {arrivals arrivals' : List (Nat × Arrival)}
    (h : Finer arrivals arrivals') (hungUp : Bool) (now : Nat) :
    closeTime? hungUp now arrivals' = closeTime? hungUp now arrivals := by
  induction h generalizing now with
  | nil => rfl
  | close time _ _ => rfl
  | @cut time bytes pieces rest rest' hcut _ ih =>
    obtain ⟨piece, pieces, rfl⟩ := List.exists_cons_of_ne_nil hcut.exists_piece
    have hpieces (others : List (List UInt8)) (now : Nat) (htime : time ≤ now) :
        closeTime? hungUp now (piecesAt time others ++ rest') = closeTime? hungUp now rest' := by
      induction others with
      | nil => rfl
      | cons other others ihothers =>
        have hstep : closeTime? hungUp now (piecesAt time (other :: others) ++ rest') =
            closeTime? hungUp (max now time) (piecesAt time others ++ rest') := rfl
        rw [hstep, Nat.max_eq_left htime, ihothers]
    exact (hpieces pieces _ (Nat.le_max_right now time)).trans (ih _)

namespace Stream

/-! ### Taking pieces -/

/-- Takes pieces, one after the other. -/
def takeAll (pieces : List (List UInt8)) (s : Stream) : Stream :=
  pieces.foldl (fun s piece => s.take (.data piece)) s

theorem takeAll_cons (piece : List UInt8) (pieces : List (List UInt8)) (s : Stream) :
    s.takeAll (piece :: pieces) = (s.take (.data piece)).takeAll pieces := rfl

/-- Takes a text. -/
def read (text : String) (s : Stream) : Stream :=
  { s with
    splitter := (s.splitter.push text).2
    transcript := s.transcript ++ text
    lines := if s.armed then s.lines ++ (s.splitter.push text).1 else s.lines }

/-- A text may be taken in two parts. -/
theorem read_append (text more : String) (s : Stream) :
    s.read (text ++ more) = (s.read text).read more := by
  cases harmed : s.armed <;>
    simp [read, harmed, Splitter.push_append, String.append_assoc]

/-- Of a chunk its text is taken. -/
theorem take_data (bytes : List UInt8) (s : Stream) :
    s.take (.data bytes) = s.read (Text.Utf8.text bytes) := by
  rw [take, read]

/-- The pieces are taken as the chunk is. -/
theorem takeAll_eq {bytes : List UInt8} {pieces : List (List UInt8)} (h : Cut bytes pieces)
    (s : Stream) : s.takeAll pieces = s.take (.data bytes) := by
  obtain ⟨piece, pieces, rfl⟩ := List.exists_cons_of_ne_nil h.exists_piece
  rw [take_data, ← h.text_eq]
  -- The chunk does not matter any more, and each piece leaves another stream to the next ones.
  clear h
  induction pieces generalizing piece s with
  | nil => simp [takeAll, take_data, textOfPieces, String.join]
  | cons next pieces ih =>
    rw [takeAll_cons, ih, take_data, textOfPieces_cons piece, read_append]

/-- All pieces that are there are taken. -/
theorem takes_piecesAt {now time : Nat} (htime : time ≤ now) (pieces : List (List UInt8))
    (rest : List (Nat × Arrival)) {s : Stream} (hopen : s.closed = false) :
    Takes now (s.withArrivals (piecesAt time pieces ++ rest)) (piecesAt time pieces)
      ((s.takeAll pieces).withArrivals rest) := by
  induction pieces generalizing s with
  | nil => exact .stop _
  | cons piece pieces ih =>
    have hrest := ih (s := s.take (.data piece)) hopen
    exact Takes.cons (by simp [hopen]) htime hrest

/-! ### Draining -/

/-- What is to come stands beside the stream while it is drained. -/
theorem drainFrom_withArrivals (now : Nat) (arrivals others : List (Nat × Arrival)) (s : Stream) :
    drainFrom now arrivals (s.withArrivals others) = drainFrom now arrivals s := by
  induction arrivals generalizing s with
  | nil => rfl
  | cons arrival rest ih =>
    obtain ⟨time, a⟩ := arrival
    have hclosed : (s.withArrivals others).closed = s.closed := rfl
    rw [drainFrom, drainFrom, hclosed, take_withArrivals, ih]
    rfl

/-- It does not matter what is taken before a stream is drained. -/
theorem Takes.drain_eq {now : Nat} {s s' : Stream} {taken : List (Nat × Arrival)}
    (h : Takes now s taken s') : s'.drain now = s.drain now := by
  induction h with
  | stop s => rfl
  | @close s hnone hup =>
    simp [drain, drainFrom, exhaust, withArrivals, hnone, hup]
  | @take s s' time a rest taken hopen harrivals htime _ ih =>
    -- Draining starts with the same arrival, and then drains what the taking leaves.
    have hstep : s.drain now = drainFrom now rest (s.take a) := by
      rw [drain, harrivals, drainFrom, if_neg (by simp [hopen]), if_pos htime]
    have hrest : ((s.withArrivals rest).take a).drain now = drainFrom now rest (s.take a) := by
      rw [take_withArrivals]
      exact drainFrom_withArrivals now rest rest (s.take a)
    rw [ih, hrest, hstep]

/-- A drained stream has nothing more to take. -/
theorem drain_drain {now later : Nat} (h : now ≤ later) (s : Stream) :
    (s.drain now).drain later = s.drain later := by
  obtain ⟨taken, htaken⟩ := s.takes_drain now
  exact (htaken.mono h).drain_eq

/-! ### Streams that are alike -/

/-- Two streams that hold the same. What is still to come, the second one gets in finer chunks. -/
structure Alike (coarse fine : Stream) : Prop where
  /-- What is to come. -/
  inbox : Inbox.Finer coarse.inbox fine.inbox
  /-- All else is the same. -/
  fine_eq : fine = { coarse with inbox := fine.inbox }

namespace Alike

variable {coarse fine : Stream}

/-- A stream is like itself. -/
theorem refl (s : Stream) : Alike s s := ⟨⟨.refl _, rfl⟩, rfl⟩

/-- Arrivals in finer chunks make no more difference than that. -/
theorem withArrivals {arrivals arrivals' : List (Nat × Arrival)} (h : Finer arrivals arrivals')
    (s : Stream) : Alike (s.withArrivals arrivals) (s.withArrivals arrivals') :=
  ⟨⟨h, rfl⟩, rfl⟩

/-- A stream, told by the one that it is like. -/
theorem eq_withArrivals (h : Alike coarse fine) :
    fine = coarse.withArrivals fine.inbox.arrivals := by
  have hinbox : fine.inbox = ⟨fine.inbox.arrivals, coarse.inbox.hungUp⟩ := by
    rw [← h.inbox.hungUp]
  calc fine = { coarse with inbox := fine.inbox } := h.fine_eq
    _ = { coarse with inbox := ⟨fine.inbox.arrivals, coarse.inbox.hungUp⟩ } := by rw [hinbox]

/-- The same has been taken. -/
theorem transcript_eq (h : Alike coarse fine) : fine.transcript = coarse.transcript := by
  rw [h.fine_eq]

end Alike

/-- What is drained is the same however it is cut, and so is what is left. -/
theorem alike_drainFrom {arrivals arrivals' : List (Nat × Arrival)} (h : Finer arrivals arrivals')
    (now : Nat) (s : Stream) : Alike (drainFrom now arrivals s) (drainFrom now arrivals' s) := by
  induction h generalizing s with
  | nil => exact .refl _
  | @close time rest rest' hrest ih =>
    rw [drainFrom, drainFrom]
    split_ifs with hclosed hdue
    · exact .withArrivals (.close time hrest) s
    · exact ih (s.take .closed)
    · exact .withArrivals (.close time hrest) s
  | @cut time bytes pieces rest rest' hcut hrest ih =>
    by_cases hopen : s.closed = false ∧ time ≤ now
    · -- All pieces are there with the first one, and leave what the chunk leaves.
      obtain ⟨hopen, hdue⟩ := hopen
      have hcoarse : drainFrom now ((time, .data bytes) :: rest) s =
          drainFrom now rest (s.take (.data bytes)) := by
        rw [drainFrom, if_neg (by simp [hopen]), if_pos hdue]
      have hfine : drainFrom now (piecesAt time pieces ++ rest') s =
          drainFrom now rest' (s.take (.data bytes)) := by
        have hdrain := (takes_piecesAt hdue pieces rest' hopen).drain_eq
        rw [drain, drain, drainFrom_withArrivals, drainFrom_withArrivals, takeAll_eq hcut]
          at hdrain
        exact hdrain.symm
      rw [hcoarse, hfine]
      exact ih _
    · -- Neither the chunk nor its first piece is taken.
      have hstays {first : List UInt8} {more : List (Nat × Arrival)} :
          drainFrom now ((time, .data first) :: more) s =
            s.withArrivals ((time, .data first) :: more) := by
        rw [drainFrom]
        split_ifs with hclosed hdue
        · rfl
        · exact absurd ⟨by simpa using hclosed, hdue⟩ hopen
        · rfl
      have hall := Finer.cut time hcut hrest
      obtain ⟨piece, pieces, rfl⟩ := List.exists_cons_of_ne_nil hcut.exists_piece
      have hfine : drainFrom now (piecesAt time (piece :: pieces) ++ rest') s =
          s.withArrivals (piecesAt time (piece :: pieces) ++ rest') := hstays
      rw [hstays, hfine]
      exact .withArrivals hall s

namespace Alike

variable {coarse fine : Stream}

/-- Streams that are alike stay so when they are drained. -/
theorem drain (h : Alike coarse fine) (now : Nat) : Alike (coarse.drain now) (fine.drain now) := by
  have hfine : fine.drain now = drainFrom now fine.inbox.arrivals coarse :=
    calc drainFrom now fine.inbox.arrivals fine
        = drainFrom now fine.inbox.arrivals (coarse.withArrivals fine.inbox.arrivals) :=
          congrArg _ h.eq_withArrivals
      _ = drainFrom now fine.inbox.arrivals coarse := drainFrom_withArrivals now _ _ coarse
  rw [hfine]
  exact alike_drainFrom h.inbox.arrivals now coarse

/-- The same lines are to come. -/
theorem coming_eq (h : Alike coarse fine) (now : Nat) : fine.coming now = coarse.coming now := by
  have hclosed : fine.closed = coarse.closed := by rw [h.fine_eq]
  have hsplitter : fine.splitter = coarse.splitter := by rw [h.fine_eq]
  rw [coming, coming, hclosed, hsplitter, h.inbox.arrivals.timedLines_eq]

/-- The end is there at the same time. -/
theorem ending?_eq (h : Alike coarse fine) (now : Nat) :
    fine.ending? now = coarse.ending? now := by
  have hclosed : fine.closed = coarse.closed := by rw [h.fine_eq]
  rw [ending?, ending?, hclosed, h.inbox.hungUp, h.inbox.arrivals.closeTime?_eq]

/-- Ending a wait leaves them alike. -/
theorem disarm (h : Alike coarse fine) : Alike coarse.disarm fine.disarm := by
  rw [h.eq_withArrivals]
  exact .withArrivals h.inbox.arrivals coarse.disarm

end Alike

/-! ### Streams that catch up -/

/-- Two streams that are alike as soon as both are drained at `now`. -/
def CatchesUp (now : Nat) (coarse fine : Stream) : Prop :=
  Alike (coarse.drain now) (fine.drain now)

/-- Ending a wait and taking what comes do not disturb each other, but that a line may be queued. -/
theorem Takes.disarm {now : Nat} {s s' : Stream} {taken : List (Nat × Arrival)}
    (h : Takes now s taken s') : Takes now s.disarm taken s'.disarm := by
  induction h with
  | stop s => exact .stop _
  | close hnone hup => exact .close (s := Stream.disarm _) hnone hup
  | @take s s' time a rest taken hopen harrivals htime _ ih =>
    have hfirst : (s.disarm.withArrivals rest).take a = ((s.withArrivals rest).take a).disarm := by
      cases a <;> rfl
    exact .take hopen harrivals htime (hfirst ▸ ih)

/-- What is sent later comes behind what has been there to be taken. -/
theorem Takes.post {now later : Nat} {s s' : Stream} {taken : List (Nat × Arrival)}
    (h : Takes now s taken s') (hle : now ≤ later) (delay : Nat) (a : Arrival) :
    Takes now { s with inbox := s.inbox.post later delay a } taken
      { s' with inbox := s'.inbox.post later delay a } := by
  induction h with
  | stop s => exact .stop _
  | @close s hnone hup =>
    -- Who notices the end has noticed that the device hung up, so nothing is sent.
    have hpost : s.inbox.post later delay a = s.inbox := if_pos hup
    rw [hpost]
    exact .close hnone hup
  | @take s s' time b rest taken hopen harrivals htime _ ih =>
    -- What is sent comes behind the first arrival, be it sent before that is taken or after.
    have hdue : time ≤ later + delay := by omega
    have hinbox : s.inbox = ⟨(time, b) :: rest, s.inbox.hungUp⟩ := by rw [← harrivals]
    have hpost : s.inbox.post later delay a =
        ⟨(time, b) :: (Inbox.post later delay a ⟨rest, s.inbox.hungUp⟩).arrivals,
          (Inbox.post later delay a ⟨rest, s.inbox.hungUp⟩).hungUp⟩ := by
      rw [hinbox]
      unfold Inbox.post
      split_ifs with hup
      · rfl
      · rw [schedule, if_pos hdue]
    have hrest : ((s.withArrivals rest).take b).inbox = ⟨rest, s.inbox.hungUp⟩ := by
      rw [inbox_take]
      rfl
    rw [hrest] at ih
    rw [hpost]
    refine .take hopen rfl htime ?_
    cases b <;> exact ih

/-- What is sent later comes behind what has been there to be taken. -/
theorem Takes.postAll {now later : Nat} {s s' : Stream} {taken : List (Nat × Arrival)}
    (h : Takes now s taken s') (hle : now ≤ later) (sent : List (Nat × Arrival)) :
    Takes now { s with inbox := s.inbox.postAll later sent } taken
      { s' with inbox := s'.inbox.postAll later sent } := by
  induction sent generalizing s s' with
  | nil => exact h
  | cons arrival sent ih => exact ih (h.post hle arrival.1 arrival.2)

/-- Hanging up does not take back what has been sent. -/
theorem Takes.hangUp {now : Nat} {s s' : Stream} {taken : List (Nat × Arrival)}
    (h : Takes now s taken s') :
    Takes now { s with inbox := s.inbox.hangUp } taken { s' with inbox := s'.inbox.hangUp } := by
  induction h with
  | stop s => exact .stop _
  | close hnone hup => exact .close hnone rfl
  | @take s s' time b rest taken hopen harrivals htime _ ih =>
    refine .take hopen harrivals htime ?_
    cases b <;> exact ih

/-- The device sends things. -/
def postAll (now : Nat) (sent : List (Nat × Arrival)) (s : Stream) : Stream :=
  { s with inbox := s.inbox.postAll now sent }

/-- The device hangs up. -/
def hangUp (s : Stream) : Stream := { s with inbox := s.inbox.hangUp }

/-- What is sent to streams that are alike leaves them alike. -/
theorem Alike.postAll {coarse fine : Stream} (h : Alike coarse fine)
    {sent sent' : List (Nat × Arrival)} (hsent : Finer sent sent') (now : Nat) :
    Alike (coarse.postAll now sent) (fine.postAll now sent') where
  inbox := h.inbox.postAll hsent now
  fine_eq := congrArg (Stream.postAll now sent') h.fine_eq

namespace CatchesUp

variable {now later : Nat} {coarse fine : Stream}

/-- Streams that are alike have caught up. -/
theorem of_alike (h : Alike coarse fine) (now : Nat) : CatchesUp now coarse fine := h.drain now

/-- Streams that catch up do so later, too. -/
theorem mono (h : CatchesUp now coarse fine) (hle : now ≤ later) : CatchesUp later coarse fine := by
  have hlater := Alike.drain h later
  rwa [drain_drain hle, drain_drain hle] at hlater

/-- Streams that are drained have caught up. -/
theorem drain (h : CatchesUp now coarse fine) : Alike (coarse.drain now) (fine.drain now) := h

/-- Streams that are armed have caught up. -/
theorem arm (h : CatchesUp now coarse fine) : Alike (coarse.arm now) (fine.arm now) where
  inbox := h.inbox
  fine_eq := by rw [Stream.arm, h.fine_eq]; rfl

/-- What is sent in finer chunks keeps no stream from catching up. -/
theorem postAll (h : CatchesUp now coarse fine) (hle : now ≤ later)
    {sent sent' : List (Nat × Arrival)} (hsent : Finer sent sent') :
    CatchesUp later (coarse.postAll later sent) (fine.postAll later sent') := by
  -- It does not matter whether the streams are drained before things are sent.
  have hdrained (s : Stream) (sent : List (Nat × Arrival)) :
      (s.postAll later sent).drain later = ((s.drain now).postAll later sent).drain later := by
    obtain ⟨taken, htaken⟩ := s.takes_drain now
    exact ((htaken.postAll hle sent).mono hle).drain_eq.symm
  unfold CatchesUp
  rw [hdrained coarse, hdrained fine]
  exact (Alike.postAll h hsent later).drain later

/-- Hanging up keeps no stream from catching up. -/
theorem hangUp (h : CatchesUp now coarse fine) : CatchesUp now coarse.hangUp fine.hangUp := by
  have hdrained (s : Stream) : s.hangUp.drain now = (s.drain now).hangUp.drain now := by
    obtain ⟨taken, htaken⟩ := s.takes_drain now
    exact htaken.hangUp.drain_eq.symm
  have hhung : Alike (coarse.drain now).hangUp (fine.drain now).hangUp :=
    ⟨h.inbox.hangUp, congrArg Stream.hangUp h.fine_eq⟩
  unfold CatchesUp
  rw [hdrained coarse, hdrained fine]
  exact hhung.drain now

end CatchesUp

/-- A stream catches up with what it was when its wait started. -/
theorem drain_await (wait : Wait) (timeout now : Nat) (s : Stream) :
    (s.await wait timeout now).2.2.drain (s.await wait timeout now).2.1 =
      s.disarm.drain (s.await wait timeout now).2.1 := by
  obtain ⟨taken, middle, htaken, hafter⟩ := s.takes_await wait timeout now
  rw [hafter]
  exact htaken.disarm.drain_eq

/-- A wait on finer chunks ends in the same way and at the same time, and the streams catch up. -/
theorem Alike.await {coarse fine : Stream} (h : Alike coarse fine) (harmed : coarse.armed = true)
    (hlines : coarse.lines = []) (wait : Wait) (timeout now : Nat) :
    ∃ after, fine.await wait timeout now =
        ((coarse.await wait timeout now).1, (coarse.await wait timeout now).2.1, after) ∧
      CatchesUp (coarse.await wait timeout now).2.1 (coarse.await wait timeout now).2.2 after := by
  have harmed' : fine.armed = true := by rw [h.eq_withArrivals]; exact harmed
  have hlines' : fine.lines = [] := by rw [h.eq_withArrivals]; exact hlines
  -- How the waits end, and when, is a matter of what is to come.
  have hended : ended (fine.await wait timeout now) = ended (coarse.await wait timeout now) := by
    rw [await_eq_race harmed hlines, await_eq_race harmed' hlines', h.coming_eq, h.ending?_eq]
  have houtcome : (fine.await wait timeout now).1 = (coarse.await wait timeout now).1 :=
    congrArg (fun x : Outcome × Nat => x.1) hended
  have htime : (fine.await wait timeout now).2.1 = (coarse.await wait timeout now).2.1 :=
    congrArg (fun x : Outcome × Nat => x.2) hended
  refine ⟨(fine.await wait timeout now).2.2, by rw [← houtcome, ← htime], ?_⟩
  unfold CatchesUp
  rw [drain_await, ← htime, drain_await]
  exact h.disarm.drain _

end Stream

end BringUp.Reply
