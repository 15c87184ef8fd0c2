import TextTemplate.Proofs.Search.Budget
import TextTemplate.Proofs.Search.Candidates
import TextTemplate.Proofs.Search.Frames

/-
  A search finds the preferred decomposition.

  An outcome decides an input when it is the preferred
  decomposition, or stuck because there is no decomposition.
  Only one outcome decides an input, and it is the outcome of
  a fresh search, with a stack of frames as well.

  Main declarations:
    * `Search.Decides`
    * `Search.Decides.unique`
    * `Search.decides_of_justified`
    * `Search.run_finds_preferred`
-/

------------------------------------------------------------
-- Decisive Outcomes
------------------------------------------------------------

namespace TextTemplate

namespace Search

/- Whether an outcome tells how to cut an input. -/
structure Decides
    (pieces : List Piece)
    (data : ByteArray)
    (outcome : Outcome) : Prop where
  found_iff :
    ∀ lengths, outcome = .found lengths ↔
      Preferred data pieces 0 lengths
  stuck_iff :
    outcome = .stuck ↔
      ¬ ∃ lengths, Decomposes data pieces 0 lengths
  ends : outcome ≠ .exhausted

/- An input is decided in one way. -/
theorem Decides.unique
    {pieces : List Piece}
    {data : ByteArray}
    {outcome other : Outcome}
    (hOutcome : Decides pieces data outcome)
    (hOther : Decides pieces data other) :
    outcome = other := by
  cases outcome with
  | found lengths =>
      have hPreferred := (hOutcome.found_iff lengths).mp rfl
      exact ((hOther.found_iff lengths).mpr hPreferred).symm
  | stuck =>
      have hNone := hOutcome.stuck_iff.mp rfl
      exact (hOther.stuck_iff.mpr hNone).symm
  | exhausted => exact absurd rfl hOutcome.ends

/-
  A justified outcome at the start of the input decides it,
  unless it is out of budget.
-/
theorem decides_of_justified
    {pieces : List Piece}
    {data : ByteArray}
    {progress : Progress}
    {ended : Outcome × Progress}
    (hJustified :
      Justified (Slot.ofPieces pieces) data ⟨0, 0⟩ progress
        ended)
    (hEnds : ended.1 ≠ .exhausted) :
    Decides pieces data ended.1 := by
  have hCompletes :
      ∀ lengths,
        Completes (Slot.ofPieces pieces) data ⟨0, 0⟩
            lengths ↔
          Decomposes data pieces 0 lengths := by
    intro lengths
    exact completes_iff_decomposes (Nat.zero_le _)
  have hStuck :
      ended.1 = .stuck →
        ¬ ∃ lengths, Decomposes data pieces 0 lengths := by
    intro hOutcome hSome
    rcases hSome with ⟨lengths, hDecomposes⟩
    exact not_completes_of_refuted hJustified.closed
      (hJustified.refuted hOutcome)
      ((hCompletes lengths).mpr hDecomposes)
  have hFound :
      ∀ lengths, ended.1 = .found lengths →
        Preferred data pieces 0 lengths := by
    intro lengths hOutcome
    have hFirst := hJustified.first lengths hOutcome
    refine ⟨(hCompletes lengths).mp hFirst.completes, ?_⟩
    intro other hOther
    exact hFirst.le hJustified.closed
      ((hCompletes other).mpr hOther)
  refine ⟨?_, ?_, hEnds⟩
  · intro lengths
    refine ⟨hFound lengths, ?_⟩
    intro hPreferred
    cases hOutcome : ended.1 with
    | found found =>
        rw [(hFound found hOutcome).unique hPreferred]
    | stuck =>
        exact absurd ⟨lengths, hPreferred.decomposes⟩
          (hStuck hOutcome)
    | exhausted => exact absurd hOutcome hEnds
  · refine ⟨hStuck, ?_⟩
    intro hNone
    cases hOutcome : ended.1 with
    | found lengths =>
        exact absurd ⟨lengths, (hFound lengths hOutcome).1⟩
          hNone
    | stuck => rfl
    | exhausted => exact absurd hOutcome hEnds

end Search

end TextTemplate

------------------------------------------------------------
-- Fresh Runs
------------------------------------------------------------

namespace TextTemplate

namespace Search

/- A fresh run without a budget decides the input. -/
theorem start_run_decides
    (pieces : List Piece)
    (data : ByteArray) :
    Decides pieces data (start pieces data none).run.1 := by
  have hJustified := start_justified pieces data none
  exact decides_of_justified hJustified
    (explore_none_ne_exhausted _ _ _ _)

/-
  A fresh search without a budget finds the preferred
  decomposition of its input, and it gets stuck exactly when
  there is no decomposition.  The search with a stack ends
  in this way and in no other.
-/
theorem run_finds_preferred
    (pieces : List Piece)
    (data : ByteArray) :
    (∀ lengths,
      (start pieces data none).run.1 = .found lengths ↔
        Preferred data pieces 0 lengths) ∧
    ((start pieces data none).run.1 = .stuck ↔
      ¬ ∃ lengths, Decomposes data pieces 0 lengths) ∧
    (start pieces data none).run.1 ≠ .exhausted ∧
    ∀ outcome progress,
      Leads data none (start pieces data none).launch
          (.ended outcome progress) ↔
        outcome = (start pieces data none).run.1 ∧
          progress =
            (start pieces data none).run.2.progress := by
  have hDecides := start_run_decides pieces data
  have hBounded :
      Bounded (start pieces data none).slots.length
        (start pieces data none).progress :=
    bounded_start _
  exact
    ⟨hDecides.found_iff, hDecides.stuck_iff, hDecides.ends,
      launch_leads_iff hBounded⟩

end Search

end TextTemplate
