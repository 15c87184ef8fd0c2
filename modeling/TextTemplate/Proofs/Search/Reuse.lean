import TextTemplate.Proofs.Search.Preference
import TextTemplate.Proofs.Search.Savings

/-
  One search can be used again and again.

  Whatever is done with a search, its memo stays closed.  So
  each run that ends within its budget has the outcome of a
  fresh search, and it takes no more steps.

  Main declarations:
    * `Search.Operation`
    * `Search.performAll`
    * `Search.Sound`
    * `Search.performAll_sound`
    * `Search.reused_run_as_fresh`
-/

------------------------------------------------------------
-- Operations
------------------------------------------------------------

namespace TextTemplate

namespace Search

/- What can be done with a search. -/
inductive Operation where
  | run
  | changeBudget (budget : Option Int)
  | candidates (index offset : Nat)

/- The search after an operation; candidates are only read. -/
def perform
    (search : Search) : Operation → Search
  | .run => search.run.2
  | .changeBudget budget => search.withBudget budget
  | .candidates _ _ => search

/- The search after several operations in turn. -/
def performAll
    (search : Search)
    (operations : List Operation) : Search :=
  operations.foldl perform search

theorem performAll_append
    (search : Search)
    (first second : List Operation) :
    search.performAll (first ++ second) =
      (search.performAll first).performAll second :=
  List.foldl_append

end Search

end TextTemplate

------------------------------------------------------------
-- Sound Searches
------------------------------------------------------------

namespace TextTemplate

namespace Search

/-
  A search is sound for pieces and an input when it is about
  them and has a closed memo.
-/
structure Sound
    (pieces : List Piece)
    (data : ByteArray)
    (search : Search) : Prop where
  slots_eq : search.slots = Slot.ofPieces pieces
  data_eq : search.data = data
  closed :
    Closed (Slot.ofPieces pieces) data
      search.progress.failed

variable {pieces : List Piece}
variable {data : ByteArray}

theorem start_sound
    (pieces : List Piece)
    (data : ByteArray)
    (budget : Option Int) :
    Sound pieces data (start pieces data budget) :=
  ⟨rfl, rfl, closed_empty⟩

theorem Sound.run_justified
    {search : Search}
    (hSound : Sound pieces data search) :
    Justified (Slot.ofPieces pieces) data ⟨0, 0⟩
      search.progress
      (search.run.1, search.run.2.progress) := by
  rcases search with ⟨slots, input, budget, progress⟩
  obtain rfl : slots = Slot.ofPieces pieces :=
    hSound.slots_eq
  obtain rfl : input = data := hSound.data_eq
  exact explore_justified budget List.drop_zero
    (Nat.zero_le _) hSound.closed

/- Every operation leaves a sound search sound. -/
theorem perform_sound
    {search : Search}
    (hSound : Sound pieces data search)
    (operation : Operation) :
    Sound pieces data (search.perform operation) := by
  cases operation with
  | run =>
      exact
        ⟨hSound.slots_eq, hSound.data_eq,
          hSound.run_justified.closed⟩
  | changeBudget budget =>
      exact ⟨hSound.slots_eq, hSound.data_eq, hSound.closed⟩
  | candidates index offset => exact hSound

/- Operations forget nothing. -/
theorem perform_remembers
    {search : Search}
    (hSound : Sound pieces data search)
    (operation : Operation) :
    ∀ p ∈ search.progress.failed,
      p ∈ (search.perform operation).progress.failed := by
  cases operation with
  | run => exact hSound.run_justified.grows
  | changeBudget budget => exact fun _ hp => hp
  | candidates index offset => exact fun _ hp => hp

theorem performAll_sound
    {search : Search}
    (hSound : Sound pieces data search)
    (operations : List Operation) :
    Sound pieces data (search.performAll operations) := by
  induction operations generalizing search with
  | nil => exact hSound
  | cons operation operations ih =>
      exact ih (perform_sound hSound operation)

theorem performAll_remembers
    {search : Search}
    (hSound : Sound pieces data search)
    (operations : List Operation) :
    ∀ p ∈ search.progress.failed,
      p ∈ (search.performAll operations).progress.failed := by
  induction operations generalizing search with
  | nil => exact fun _ hp => hp
  | cons operation operations ih =>
      intro p hp
      apply ih (perform_sound hSound operation)
      exact perform_remembers hSound operation p hp

end Search

end TextTemplate

------------------------------------------------------------
-- Runs of Sound Searches
------------------------------------------------------------

namespace TextTemplate

namespace Search

variable {pieces : List Piece}
variable {data : ByteArray}

/- A run that ends within its budget is a fresh one. -/
theorem Sound.run_outcome
    {search : Search}
    (hSound : Sound pieces data search)
    (hEnds : search.run.1 ≠ .exhausted) :
    search.run.1 = (start pieces data none).run.1 :=
  Decides.unique
    (decides_of_justified hSound.run_justified hEnds)
    (start_run_decides pieces data)

/- The steps of such a run are those without a budget. -/
theorem Sound.run_steps
    {search : Search}
    (hSound : Sound pieces data search)
    (hEnds : search.run.1 ≠ .exhausted) :
    search.run.2.steps =
      (explore data none (Slot.ofPieces pieces) ⟨0, 0⟩
        search.progress).2.steps := by
  have hUnlimited := (run_of_ne_exhausted hEnds).2
  rcases search with ⟨slots, input, budget, progress⟩
  obtain rfl : slots = Slot.ofPieces pieces :=
    hSound.slots_eq
  obtain rfl : input = data := hSound.data_eq
  exact congrArg Progress.steps hUnlimited

/- It takes no more steps than a fresh one. -/
theorem Sound.run_steps_le
    {search : Search}
    (hSound : Sound pieces data search)
    (hEnds : search.run.1 ≠ .exhausted) :
    search.run.2.steps ≤
      search.steps + (start pieces data none).run.2.steps := by
  have hSubset :
      ∀ p ∈ Progress.start.failed,
        p ∈ search.progress.failed := by
    intro p hp
    exact absurd hp (Memo.not_mem_empty p)
  have hSaves :
      Saves .start search.progress
        (explore data none (Slot.ofPieces pieces) ⟨0, 0⟩
          .start)
        (explore data none (Slot.ofPieces pieces) ⟨0, 0⟩
          search.progress) := by
    apply explore_saves _ _ closed_empty hSound.closed
      hSubset
    · exact List.drop_zero
    · exact Nat.zero_le _
  have hSteps := hSaves.steps_le
  rw [← hSound.run_steps hEnds] at hSteps
  rw [Nat.add_comm search.steps]
  exact hSteps

/- Once a run got stuck, the start is remembered. -/
theorem Sound.start_mem_of_stuck
    {search : Search}
    (hSound : Sound pieces data search)
    (hPieces : pieces ≠ [])
    (hStuck : search.run.1 = .stuck) :
    ⟨0, 0⟩ ∈ search.run.2.progress.failed := by
  apply (hSound.run_justified.refuted hStuck).mem
  rw [Slot.length_ofPieces]
  exact List.length_pos_iff.mpr hPieces

/-
  Once the start is remembered, a run takes one step for
  each of its candidates.
-/
theorem Sound.run_steps_of_mem
    {search : Search}
    (hSound : Sound pieces data search)
    (hPieces : pieces ≠ [])
    (hMem : ⟨0, 0⟩ ∈ search.progress.failed)
    (hEnds : search.run.1 ≠ .exhausted) :
    search.run.2.steps =
      search.steps +
        (search.candidates 0 0).elim 0 LengthRange.count := by
  rw [hSound.run_steps hEnds, candidates, hSound.slots_eq,
    hSound.data_eq]
  cases pieces with
  | nil => exact absurd rfl hPieces
  | cons piece later =>
      have hSlots := Slot.ofPieces_cons piece later
      have hClosed := hSound.closed
      rw [hSlots] at hClosed ⊢
      exact explore_of_mem List.drop_zero hClosed hMem

/-
  A search can be reused.  After any operations, a run that
  ends within its budget has the outcome of a fresh search
  without a budget and adds no more steps than that one
  takes.  After a run that got stuck, it adds just the number
  of candidates at the start.
-/
theorem reused_run_as_fresh
    (pieces : List Piece)
    (data : ByteArray)
    (budget : Option Int)
    (operations : List Operation)
    (search : Search)
    (hSearch :
      search =
        (start pieces data budget).performAll operations)
    (hEnds : search.run.1 ≠ .exhausted) :
    search.run.1 = (start pieces data none).run.1 ∧
    search.run.2.steps ≤
      search.steps + (start pieces data none).run.2.steps ∧
    (pieces ≠ [] →
      ∀ earlier later,
        operations = earlier ++ .run :: later →
        ((start pieces data budget).performAll
          earlier).run.1 = .stuck →
          search.run.2.steps =
            search.steps +
              (search.candidates 0 0).elim 0
                LengthRange.count) := by
  have hStart := start_sound pieces data budget
  have hSound : Sound pieces data search := by
    rw [hSearch]
    exact performAll_sound hStart operations
  refine
    ⟨hSound.run_outcome hEnds, hSound.run_steps_le hEnds, ?_⟩
  intro hPieces earlier later hOperations hStuck
  apply hSound.run_steps_of_mem hPieces _ hEnds
  have hEarlier := performAll_sound hStart earlier
  have hMem := hEarlier.start_mem_of_stuck hPieces hStuck
  have hRun := perform_sound hEarlier .run
  rw [hSearch, hOperations, performAll_append]
  exact performAll_remembers hRun later _ hMem

/-
  A field before a letter that the input lacks: a run, an
  exhausted run under a budget, and a run without one.
-/
theorem reused_run_as_fresh_missing_letter :
    let pieces : List Piece :=
      [⟨.named "x", .atLeast 0, .nonBlank⟩,
        ⟨.named "y", .atLeast 0, .nonBlank⟩,
        .literal ⟨#[98]⟩]
    let data : ByteArray := ⟨#[97, 97, 97]⟩
    let search :=
      (start pieces data (some 9)).performAll
        [.run, .changeBudget (some 1), .run,
          .candidates 1 2, .changeBudget none]
    search.run.1 = .stuck ∧
      search.run.2.steps = search.steps + 3 := by
  intro pieces data search
  have hEnds : search.run.1 ≠ .exhausted := by decide
  have hReused := reused_run_as_fresh pieces data (some 9) _
    search rfl hEnds
  refine ⟨by decide, ?_⟩
  exact hReused.2.2 (by decide) [] _ rfl (by decide)

end Search

end TextTemplate
