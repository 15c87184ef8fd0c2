import TextTemplate.Search.Basic

/-
  What an exploration does with one candidate.

  An attempt at a candidate runs out of budget, refuses the
  candidate, knows already that the next place leads
  nowhere, or explores the next place.  An exploration tries
  all candidates of a place in this way.

  Main declarations:
    * `Place.after`
    * `Search.attempt`
    * `Search.explore_cons_of_some`
    * `Search.Attempted`
    * `Search.attempted`
-/

------------------------------------------------------------
-- Prepended Lengths
------------------------------------------------------------

namespace TextTemplate

namespace Outcome

/- A length put before an outcome changes no other kind. -/
theorem prepend_eq_found_iff
    {length : Nat}
    {lengths : List Nat}
    {outcome : Outcome} :
    outcome.prepend length = .found lengths ↔
      ∃ rest, outcome = .found rest ∧
        length :: rest = lengths := by
  cases outcome <;> simp [prepend]

theorem prepend_eq_stuck_iff
    {length : Nat}
    {outcome : Outcome} :
    outcome.prepend length = .stuck ↔ outcome = .stuck := by
  cases outcome <;> simp [prepend]

theorem prepend_eq_exhausted_iff
    {length : Nat}
    {outcome : Outcome} :
    outcome.prepend length = .exhausted ↔
      outcome = .exhausted := by
  cases outcome <;> simp [prepend]

end Outcome

end TextTemplate

------------------------------------------------------------
-- Attempts
------------------------------------------------------------

namespace TextTemplate

/- The place that follows a segment. -/
def Place.after
    (place : Place)
    (length : Nat) : Place :=
  ⟨place.index + 1, place.offset + length⟩

namespace Search

/-
  Try one candidate of a slot; `proceed` is what happens at
  the next place.
-/
def attempt
    (data : ByteArray)
    (budget : Option Int)
    (slot : Slot)
    (proceed : Place → Progress → Outcome × Progress)
    (place : Place)
    (length : Nat)
    (progress : Progress) : Outcome × Progress :=
  let progress := progress.advance
  if progress.exceeds budget then
    (.exhausted, progress)
  else if !slot.piece.fits data place.offset length then
    (.stuck, progress)
  else if
    progress.failed.contains (place.after length)
  then
    (.stuck, progress)
  else
    let ended := proceed (place.after length) progress
    (ended.1.prepend length, ended.2)

/- With no slot left, the input has to be used up. -/
theorem explore_nil
    (data : ByteArray)
    (budget : Option Int)
    (place : Place)
    (progress : Progress) :
    explore data budget [] place progress =
      if place.offset = data.size then
        (.found [], progress)
      else
        (.stuck, progress) :=
  rfl

/- A slot without candidates is given up at once. -/
theorem explore_cons_of_none
    {data : ByteArray}
    {slot : Slot}
    {place : Place}
    (hNone : slot.candidates data place.offset = none)
    (budget : Option Int)
    (later : List Slot)
    (progress : Progress) :
    explore data budget (slot :: later) place progress =
      (.stuck, progress.fail place) := by
  rw [explore, hNone]

/- The candidates of a slot are attempted in turn. -/
theorem explore_cons_of_some
    {data : ByteArray}
    {slot : Slot}
    {place : Place}
    {range : LengthRange}
    (hSome : slot.candidates data place.offset = some range)
    (budget : Option Int)
    (later : List Slot)
    (progress : Progress) :
    explore data budget (slot :: later) place progress =
      settle place
        (tryLengths
          (attempt data budget slot
            (explore data budget later) place)
          range.shortest range.count progress) := by
  rw [explore, hSome]
  rfl

/- What an attempt at a candidate came to. -/
inductive Attempted
    (data : ByteArray)
    (budget : Option Int)
    (slot : Slot)
    (proceed : Place → Progress → Outcome × Progress)
    (place : Place)
    (length : Nat)
    (progress : Progress) : Outcome × Progress → Prop where
  | exhausted
      (hExceeds :
        progress.advance.exceeds budget = true) :
      Attempted data budget slot proceed place length
        progress (.exhausted, progress.advance)
  | unfit
      (hExceeds :
        progress.advance.exceeds budget = false)
      (hFits :
        slot.piece.fits data place.offset length = false) :
      Attempted data budget slot proceed place length
        progress (.stuck, progress.advance)
  | remembered
      (hExceeds :
        progress.advance.exceeds budget = false)
      (hFits :
        slot.piece.fits data place.offset length = true)
      (hMem : place.after length ∈ progress.failed) :
      Attempted data budget slot proceed place length
        progress (.stuck, progress.advance)
  | explored
      (hExceeds :
        progress.advance.exceeds budget = false)
      (hFits :
        slot.piece.fits data place.offset length = true)
      (hMem : place.after length ∉ progress.failed) :
      Attempted data budget slot proceed place length
        progress
        ((proceed (place.after length)
            progress.advance).1.prepend length,
          (proceed (place.after length)
            progress.advance).2)

/- An attempt comes to one of four results. -/
theorem attempted
    (data : ByteArray)
    (budget : Option Int)
    (slot : Slot)
    (proceed : Place → Progress → Outcome × Progress)
    (place : Place)
    (length : Nat)
    (progress : Progress) :
    Attempted data budget slot proceed place length progress
      (attempt data budget slot proceed place length
        progress) := by
  unfold attempt
  simp only
  split
  · rename_i hExceeds
    exact Attempted.exhausted hExceeds
  · rename_i hExceeds
    rw [Bool.not_eq_true] at hExceeds
    split
    · rename_i hFits
      exact Attempted.unfit hExceeds (by simpa using hFits)
    · rename_i hFits
      rw [Bool.not_eq_true, Bool.not_eq_false'] at hFits
      split
      · rename_i hMem
        exact Attempted.remembered hExceeds hFits hMem
      · rename_i hMem
        exact Attempted.explored hExceeds hFits hMem

/- What every attempt keeps is kept by all attempts. -/
theorem tryLengths_keeps
    {attempt : Nat → Progress → Outcome × Progress}
    {shortest count : Nat}
    (keeps : Progress → Prop)
    (hAttempt :
      ∀ length progress,
        shortest ≤ length → length < shortest + count →
          keeps progress → keeps (attempt length progress).2)
    {progress : Progress}
    (hProgress : keeps progress) :
    keeps (tryLengths attempt shortest count progress).2 := by
  induction count generalizing progress with
  | zero => exact hProgress
  | succ count ih =>
      have hFirst := hAttempt (shortest + count) progress
        (by omega) (by omega) hProgress
      rw [tryLengths]
      split
      · rename_i later hStuck
        rw [hStuck] at hFirst
        refine ih ?_ hFirst
        intro length progress hLower hUpper
        exact hAttempt length progress hLower (by omega)
      · exact hFirst

end Search

end TextTemplate
