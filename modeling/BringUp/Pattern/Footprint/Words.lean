import BringUp.Pattern.Footprint.Part

/-!
# Words in an automaton

A choice between words is built as a tree: words with the same first octets share the states for
these. The earlier word is preferred, so where one word ends the later ones start anew: they share
nothing with the words before it from there on.
-/

namespace BringUp.Pattern.Footprint.Words

/-- What is left of the words from one place on, in the order of preference. -/
abbrev Rests := List (List Nat)

/-- Words that end at once are one word if there is no other before them. -/
def dropRepeats : Rests → Rests
  | [] :: rests => [] :: rests.dropWhile (·.isEmpty)
  | rests => rests

/-- The runs of words between those that end at once; the runs are not empty. -/
def runs (rests : Rests) : List Rests :=
  rests.foldr (fun rest runs =>
    if rest.isEmpty then [] :: runs
    else match runs with
      | run :: runs => (rest :: run) :: runs
      | [] => [[rest]]) []
  |>.filter (!·.isEmpty)

/-- The different first octets of some words. -/
def heads (rests : Rests) : List Nat := (rests.filterMap List.head?).eraseDups

/-- What is left of the words after their first octet, if that is `head`. -/
def after (head : Nat) (rests : Rests) : Rests :=
  rests.filterMap fun rest => if rest.head? == some head then some rest.tail else none

/-- The states that read the words from one place on; `depth` is more than the octets of the
longest. Each run of words is a state with a transition for each first octet, and a choice leads
to the runs and to the end of the words that end at once. -/
def build : Nat → Rests → Meter → Meter
  | 0, _, m => m
  | depth + 1, rests, m =>
    let rests := dropRepeats rests
    let runs := runs rests
    let m := runs.foldl (fun m run =>
      let octets := heads run
      let m := octets.foldl (fun m octet =>
        let inner := after octet run
        if inner.all (·.isEmpty) then m else build depth inner m) m
      m.add (if octets.length == 1 then 0 else Meter.transitions octets.length)) m
    m.add (Meter.alternatives (runs.length + rests.countP (·.isEmpty)))

/-- The part that reads one of the words. -/
def part (words : List (List Nat)) : Part where
  build m :=
    let longest := words.foldl (fun n word => max n word.length) 0
    (build (longest + 1) words (m.add 0), false)

end BringUp.Pattern.Footprint.Words
