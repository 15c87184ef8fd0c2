import TextTemplate.Search.Candidates
import TextTemplate.Search.Memo

/-
  The search for a way to cut the input into one segment per
  piece.

  Pieces are taken from left to right and the candidates of
  a piece from the longest to the shortest.  The first
  complete cut is the answer.  Places that led nowhere are
  remembered, since what the later pieces can do depends on
  the place alone.  Every candidate tried is a step, and a
  budget may bound the number of steps.

  Key definitions include:
    * `Progress`
    * `Outcome`
    * `Search`
    * `Search.explore`
    * `Search.run`
-/

------------------------------------------------------------
-- Progress
------------------------------------------------------------

namespace TextTemplate

/- What a search keeps from one try to the next. -/
structure Progress where
  steps : Nat
  failed : Memo

namespace Progress

/- The progress of a search that has not begun. -/
def start : Progress :=
  ⟨0, .empty⟩

/- Count one more step. -/
def advance
    (progress : Progress) : Progress :=
  { progress with steps := progress.steps + 1 }

/- Remember that a place leads nowhere. -/
def fail
    (progress : Progress)
    (place : Place) : Progress :=
  { progress with
    failed := progress.failed.insert place }

/- Whether more steps were counted than a budget allows. -/
def exceeds
    (progress : Progress)
    (budget : Option Int) : Bool :=
  budget.any fun (limit : Int) => limit < progress.steps

end Progress

/-
  How a search ends: with the lengths of all segments, with
  no way to cut the input, or out of budget.
-/
inductive Outcome where
  | found (lengths : List Nat)
  | stuck
  | exhausted
  deriving DecidableEq

namespace Outcome

/- Put the length of a segment before those found later. -/
def prepend
    (length : Nat) : Outcome → Outcome
  | .found lengths => .found (length :: lengths)
  | .stuck => .stuck
  | .exhausted => .exhausted

end Outcome

end TextTemplate

------------------------------------------------------------
-- Exploration
------------------------------------------------------------

namespace TextTemplate

namespace Search

/-
  Try consecutive lengths, the greatest first, until one
  does not get stuck.
-/
def tryLengths
    (attempt : Nat → Progress → Outcome × Progress)
    (shortest : Nat) :
    Nat → Progress → Outcome × Progress
  | 0, progress => (.stuck, progress)
  | count + 1, progress =>
      match attempt (shortest + count) progress with
      | (.stuck, progress) =>
          tryLengths attempt shortest count progress
      | ended => ended

/- Remember a place when its exploration got stuck. -/
def settle
    (place : Place) :
    Outcome × Progress → Outcome × Progress
  | (.stuck, progress) => (.stuck, progress.fail place)
  | ended => ended

/-
  Cut the input from a place on into segments for the slots
  that are left.
-/
def explore
    (data : ByteArray)
    (budget : Option Int) :
    List Slot → Place → Progress → Outcome × Progress
  | [], place, progress =>
      if place.offset = data.size then
        (.found [], progress)
      else
        (.stuck, progress)
  | slot :: later, place, progress =>
      match slot.candidates data place.offset with
      | none => (.stuck, progress.fail place)
      | some range =>
          let attempt := fun length progress =>
            let progress := progress.advance
            let next : Place :=
              ⟨place.index + 1, place.offset + length⟩
            if progress.exceeds budget then
              (.exhausted, progress)
            else if
              !slot.piece.fits data place.offset length
            then
              (.stuck, progress)
            else if progress.failed.contains next then
              (.stuck, progress)
            else
              let ended :=
                explore data budget later next progress
              (ended.1.prepend length, ended.2)
          settle place
            (tryLengths attempt range.shortest range.count
              progress)

end Search

end TextTemplate

------------------------------------------------------------
-- Searches
------------------------------------------------------------

namespace TextTemplate

/- A search, which can be run more than once. -/
structure Search where
  slots : List Slot
  data : ByteArray
  budget : Option Int
  progress : Progress

namespace Search

/- A search that has not been run. -/
def start
    (pieces : List Piece)
    (data : ByteArray)
    (budget : Option Int) : Search :=
  ⟨Slot.ofPieces pieces, data, budget, .start⟩

/- The number of steps taken in all runs. -/
def steps
    (search : Search) : Nat :=
  search.progress.steps

/- The same search under another budget. -/
def withBudget
    (search : Search)
    (budget : Option Int) : Search :=
  { search with budget := budget }

/- The candidates for a piece at an offset. -/
def candidates
    (search : Search)
    (index : Nat)
    (offset : Nat) : Option LengthRange :=
  match search.slots[index]? with
  | some slot => slot.candidates search.data offset
  | none => none

/- Run a search from the start of its input. -/
def run
    (search : Search) : Outcome × Search :=
  let ended := explore search.data search.budget
    search.slots ⟨0, 0⟩ search.progress
  (ended.1, { search with progress := ended.2 })

end Search

end TextTemplate
