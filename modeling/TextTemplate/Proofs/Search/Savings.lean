import TextTemplate.Proofs.Search.Budget
import TextTemplate.Proofs.Search.Refutation

/-
  What a search saves by what it remembers.

  Two explorations of one place are compared, where the
  second begins with a memo that holds at least what the
  first one remembers.  Both memos are closed.  Then both
  have the same outcome, and the second takes no more steps.
  At a place that is already refuted, every candidate costs
  one step and nothing else.

  Main declarations:
    * `Search.explore_within`
    * `Search.Saves`
    * `Search.explore_saves`
-/

------------------------------------------------------------
-- Explorations Within a Memo
------------------------------------------------------------

namespace TextTemplate

namespace Search

variable {slots : List Slot}
variable {data : ByteArray}

/- A refuted place with a slot left is remembered. -/
theorem Refuted.mem
    {memo : Memo}
    {place : Place}
    (hRefuted : Refuted slots data memo place)
    (hIndex : place.index < slots.length) :
    place ∈ memo := by
  rcases hRefuted with hMem | hEnd
  · exact hMem
  · omega

/-
  The exploration of a refuted place remembers nothing that a
  closed memo does not.
-/
theorem explore_within
    {known : Memo}
    (hKnown : Closed slots data known)
    (budget : Option Int)
    {later : List Slot}
    {place : Place}
    (hDrop : slots.drop place.index = later)
    (hRefuted : Refuted slots data known place)
    {progress : Progress}
    (hSubset : ∀ p ∈ progress.failed, p ∈ known) :
    ∀ p ∈ (explore data budget later place
      progress).2.failed, p ∈ known := by
  induction later generalizing place progress with
  | nil =>
      rw [explore_nil]
      split <;> exact hSubset
  | cons slot later ih =>
      have hSlot := getElem?_of_drop_eq_cons hDrop
      have hMem : place ∈ known :=
        hRefuted.mem (index_lt_of_drop_eq_cons hDrop)
      have hSettle :
          ∀ tried : Outcome × Progress,
            (∀ p ∈ tried.2.failed, p ∈ known) →
              ∀ p ∈ (settle place tried).2.failed,
                p ∈ known := by
        intro tried hTried p hp
        rcases tried with ⟨outcome, ended⟩
        cases outcome with
        | stuck =>
            rcases Memo.mem_insert.mp hp with rfl | hOld
            · exact hMem
            · exact hTried p hOld
        | found lengths => exact hTried p hp
        | exhausted => exact hTried p hp
      cases hCandidates :
          slot.candidates data place.offset with
      | none =>
          rw [explore_cons_of_none hCandidates]
          exact hSettle (.stuck, progress) hSubset
      | some range =>
          rw [explore_cons_of_some hCandidates]
          apply hSettle
          apply tryLengths_keeps
            (fun progress => ∀ p ∈ progress.failed, p ∈ known)
            _ hSubset
          intro length progress hLower hUpper hProgress
          have hResult := attempted data budget slot
            (explore data budget later) place length progress
          revert hResult
          generalize attempt data budget slot
            (explore data budget later) place length
            progress = ended
          intro hResult
          cases hResult with
          | exhausted _ => exact hProgress
          | unfit _ _ => exact hProgress
          | remembered _ _ _ => exact hProgress
          | explored _ hFits _ =>
              have hOffers :
                  slot.Offers data place.offset length :=
                ⟨range, hCandidates, hLower,
                  range.lt_shortest_add_count.mp hUpper⟩
              have hViable : Viable slots data place length :=
                (viable_iff hSlot).mpr ⟨hOffers, hFits⟩
              exact ih (drop_succ_of_drop_eq_cons hDrop)
                ((hKnown place hMem).2 length hViable)
                hProgress

end Search

end TextTemplate

------------------------------------------------------------
-- Explorations of Refuted Places
------------------------------------------------------------

namespace TextTemplate

namespace Slot

/- The number of candidates of a slot at an offset. -/
def width
    (slot : Slot)
    (data : ByteArray)
    (offset : Nat) : Nat :=
  (slot.candidates data offset).elim 0 LengthRange.count

end Slot

namespace Search

variable {slots : List Slot}
variable {data : ByteArray}

/- When no attempt does more than count, all do not. -/
theorem tryLengths_of_advance
    {attempt : Nat → Progress → Outcome × Progress}
    {failed : Memo}
    {shortest count : Nat}
    (hAttempt :
      ∀ length steps,
        shortest ≤ length → length < shortest + count →
          attempt length ⟨steps, failed⟩ =
            (.stuck, ⟨steps + 1, failed⟩))
    (steps : Nat) :
    tryLengths attempt shortest count ⟨steps, failed⟩ =
      (.stuck, ⟨steps + count, failed⟩) := by
  induction count generalizing steps with
  | zero => rfl
  | succ count ih =>
      have hFirst := hAttempt (shortest + count) steps
        (by omega) (by omega)
      rw [tryLengths, hFirst]
      simp only
      rw [ih, Nat.add_right_comm, Nat.add_assoc]
      intro length steps hLower hUpper
      exact hAttempt length steps hLower (by omega)

/- The exploration of a refuted end does nothing. -/
theorem explore_of_end
    (budget : Option Int)
    {later : List Slot}
    {place : Place}
    (hDrop : slots.drop place.index = later)
    (hIndex : place.index = slots.length)
    (hOffset : place.offset ≠ data.size)
    (progress : Progress) :
    explore data budget later place progress =
      (.stuck, progress) := by
  obtain rfl : [] = later := by
    rw [← hDrop, hIndex, List.drop_length]
  rw [explore_nil, if_neg hOffset]

/- At a remembered place an attempt only counts. -/
theorem attempt_of_mem
    {slot : Slot}
    {later : List Slot}
    {place : Place}
    (hDrop : slots.drop place.index = slot :: later)
    {failed : Memo}
    (hClosed : Closed slots data failed)
    (hMem : place ∈ failed)
    {length : Nat}
    (hOffers : slot.Offers data place.offset length)
    (steps : Nat) :
    attempt data none slot (explore data none later) place
        length ⟨steps, failed⟩ =
      (.stuck, ⟨steps + 1, failed⟩) := by
  have hResult := attempted data none slot
    (explore data none later) place length ⟨steps, failed⟩
  revert hResult
  generalize attempt data none slot
    (explore data none later) place length
    ⟨steps, failed⟩ = ended
  intro hResult
  cases hResult with
  | exhausted hExceeds =>
      rw [exceeds_none] at hExceeds
      exact nomatch hExceeds
  | unfit _ _ => rfl
  | remembered _ _ _ => rfl
  | explored _ hFits hNext =>
      have hViable : Viable slots data place length :=
        (viable_iff (getElem?_of_drop_eq_cons hDrop)).mpr
          ⟨hOffers, hFits⟩
      rcases (hClosed place hMem).2 length hViable with
        hKnown | hEnd
      · exact absurd hKnown hNext
      · rw [explore_of_end none
          (drop_succ_of_drop_eq_cons hDrop) hEnd.1 hEnd.2]
        rfl

/-
  An unlimited exploration of a remembered place takes one
  step for each candidate.
-/
theorem explore_of_mem
    {slot : Slot}
    {later : List Slot}
    {place : Place}
    (hDrop : slots.drop place.index = slot :: later)
    {progress : Progress}
    (hClosed : Closed slots data progress.failed)
    (hMem : place ∈ progress.failed) :
    (explore data none (slot :: later) place
        progress).2.steps =
      progress.steps + slot.width data place.offset := by
  cases hCandidates : slot.candidates data place.offset with
  | none =>
      rw [explore_cons_of_none hCandidates, Slot.width,
        hCandidates]
      rfl
  | some range =>
      rw [explore_cons_of_some hCandidates, settle_steps,
        Slot.width, hCandidates, Option.elim_some]
      rcases progress with ⟨steps, failed⟩
      rw [tryLengths_of_advance]
      intro length steps hLower hUpper
      exact attempt_of_mem hDrop hClosed hMem
        ⟨range, hCandidates, hLower,
          range.lt_shortest_add_count.mp hUpper⟩ steps

end Search

end TextTemplate

------------------------------------------------------------
-- Explorations With More Remembered
------------------------------------------------------------

namespace TextTemplate

namespace Search

variable {slots : List Slot}
variable {data : ByteArray}

/-
  How two explorations compare when the second one remembers
  more from the start.
-/
structure Saves
    (fewer more : Progress)
    (first second : Outcome × Progress) : Prop where
  outcome_eq : second.1 = first.1
  subset : ∀ p ∈ first.2.failed, p ∈ second.2.failed
  steps_le :
    second.2.steps + fewer.steps ≤
      first.2.steps + more.steps

/- The same outcome without any work saves nothing. -/
theorem Saves.idle
    {fewer more : Progress}
    (hSubset : ∀ p ∈ fewer.failed, p ∈ more.failed)
    (outcome : Outcome) :
    Saves fewer more (outcome, fewer) (outcome, more) :=
  ⟨rfl, hSubset, Nat.le_of_eq (Nat.add_comm _ _)⟩

/- A step counted by both saves nothing. -/
theorem Saves.of_advance
    {fewer more : Progress}
    {first second : Outcome × Progress}
    (hSaves :
      Saves fewer.advance more.advance first second) :
    Saves fewer more first second := by
  have hSteps := hSaves.steps_le
  refine ⟨hSaves.outcome_eq, hSaves.subset, ?_⟩
  simp only [Progress.advance] at hSteps
  omega

theorem Saves.prepend
    {fewer more : Progress}
    {first second : Outcome × Progress}
    (hSaves : Saves fewer more first second)
    (length : Nat) :
    Saves fewer more (first.1.prepend length, first.2)
      (second.1.prepend length, second.2) := by
  refine ⟨?_, hSaves.subset, hSaves.steps_le⟩
  rw [hSaves.outcome_eq]

theorem settle_saves
    {fewer more : Progress}
    {first second : Outcome × Progress}
    (place : Place)
    (hSaves : Saves fewer more first second) :
    Saves fewer more (settle place first)
      (settle place second) := by
  rcases first with ⟨outcome, firstLater⟩
  rcases second with ⟨other, secondLater⟩
  obtain rfl : other = outcome := hSaves.outcome_eq
  cases other with
  | stuck =>
      refine ⟨rfl, ?_, hSaves.steps_le⟩
      intro p hp
      rcases Memo.mem_insert.mp hp with hHere | hOld
      · exact Memo.mem_insert.mpr (Or.inl hHere)
      · exact Memo.mem_insert.mpr
          (Or.inr (hSaves.subset p hOld))
  | found lengths => exact hSaves
  | exhausted => exact hSaves

theorem attempt_closed
    (budget : Option Int)
    {slot : Slot}
    {later : List Slot}
    {place : Place}
    (hDrop : slots.drop place.index = slot :: later)
    (length : Nat)
    {progress : Progress}
    (hClosed : Closed slots data progress.failed) :
    Closed slots data
      (attempt data budget slot (explore data budget later)
        place length progress).2.failed := by
  have hResult := attempted data budget slot
    (explore data budget later) place length progress
  revert hResult
  generalize attempt data budget slot
    (explore data budget later) place length progress = ended
  intro hResult
  cases hResult with
  | exhausted _ => exact hClosed
  | unfit _ _ => exact hClosed
  | remembered _ _ _ => exact hClosed
  | explored _ _ _ =>
      have hLess := index_lt_of_drop_eq_cons hDrop
      have hNext :
          slots.drop (place.after length).index = later :=
        drop_succ_of_drop_eq_cons hDrop
      have hAdvanced :
          Closed slots data progress.advance.failed :=
        hClosed
      exact (explore_justified budget hNext hLess
        hAdvanced).closed

/-
  The exploration of a place that only the second one
  remembers is wasted.
-/
theorem Saves.of_mem
    {later : List Slot}
    {place : Place}
    (hDrop : slots.drop place.index = later)
    (hIndex : place.index ≤ slots.length)
    {fewer more : Progress}
    (hFewer : Closed slots data fewer.failed)
    (hMore : Closed slots data more.failed)
    (hSubset : ∀ p ∈ fewer.failed, p ∈ more.failed)
    (hMem : place ∈ more.failed) :
    Saves fewer more
      (explore data none later place fewer)
      (.stuck, more) := by
  have hJustified :=
    explore_justified none hDrop hIndex hFewer
  have hSteps :=
    explore_steps_le data none later place fewer
  refine ⟨?_, ?_, by simp only; omega⟩
  · cases hOutcome :
        (explore data none later place fewer).1 with
    | stuck => rfl
    | found lengths =>
        have hCompletes :=
          (hJustified.first lengths hOutcome).completes
        exact absurd hCompletes
          (not_completes_of_refuted hMore (Or.inl hMem))
    | exhausted =>
        exact absurd hOutcome
          (explore_none_ne_exhausted data later place fewer)
  · exact explore_within hMore none hDrop (Or.inl hMem)
      hSubset

/- An attempt is saved when the next place is remembered. -/
theorem attempt_saves
    {slot : Slot}
    {later : List Slot}
    {place : Place}
    (hDrop : slots.drop place.index = slot :: later)
    (hProceed :
      ∀ next fewer more,
        slots.drop next.index = later →
        next.index ≤ slots.length →
        Closed slots data fewer.failed →
        Closed slots data more.failed →
        (∀ p ∈ fewer.failed, p ∈ more.failed) →
          Saves fewer more
            (explore data none later next fewer)
            (explore data none later next more))
    (length : Nat)
    {fewer more : Progress}
    (hFewer : Closed slots data fewer.failed)
    (hMore : Closed slots data more.failed)
    (hSubset : ∀ p ∈ fewer.failed, p ∈ more.failed) :
    Saves fewer more
      (attempt data none slot (explore data none later) place
        length fewer)
      (attempt data none slot (explore data none later) place
        length more) := by
  have hNextDrop :
      slots.drop (place.after length).index = later :=
    drop_succ_of_drop_eq_cons hDrop
  have hNextIndex :
      (place.after length).index ≤ slots.length :=
    index_lt_of_drop_eq_cons hDrop
  have hFewerNext : Closed slots data fewer.advance.failed :=
    hFewer
  have hMoreNext : Closed slots data more.advance.failed :=
    hMore
  have hSubsetNext :
      ∀ p ∈ fewer.advance.failed, p ∈ more.advance.failed :=
    hSubset
  apply Saves.of_advance
  simp only [attempt, exceeds_none, Bool.false_eq_true,
    if_false]
  generalize fewer.advance = fewer at *
  generalize more.advance = more at *
  by_cases hFits :
      (!slot.piece.fits data place.offset length) = true
  · rw [if_pos hFits, if_pos hFits]
    exact Saves.idle hSubsetNext .stuck
  · rw [if_neg hFits, if_neg hFits]
    by_cases hMem :
        more.failed.contains (place.after length) = true
    · rw [if_pos hMem]
      by_cases hKnown :
          fewer.failed.contains (place.after length) = true
      · rw [if_pos hKnown]
        exact Saves.idle hSubsetNext .stuck
      · rw [if_neg hKnown]
        have hWasted := Saves.of_mem hNextDrop hNextIndex
          hFewerNext hMoreNext hSubsetNext hMem
        exact hWasted.prepend length
    · have hUnknown :
          ¬ fewer.failed.contains (place.after length) =
            true := by
        intro hKnown
        exact hMem (hSubsetNext _ hKnown)
      rw [if_neg hMem, if_neg hUnknown]
      have hNext := hProceed (place.after length) fewer more
        hNextDrop hNextIndex hFewerNext hMoreNext hSubsetNext
      exact hNext.prepend length

theorem tryLengths_saves
    {attempt : Nat → Progress → Outcome × Progress}
    (hClosed :
      ∀ length progress,
        Closed slots data progress.failed →
          Closed slots data
            (attempt length progress).2.failed)
    (hAttempt :
      ∀ length fewer more,
        Closed slots data fewer.failed →
        Closed slots data more.failed →
        (∀ p ∈ fewer.failed, p ∈ more.failed) →
          Saves fewer more (attempt length fewer)
            (attempt length more))
    (shortest count : Nat)
    {fewer more : Progress}
    (hFewer : Closed slots data fewer.failed)
    (hMore : Closed slots data more.failed)
    (hSubset : ∀ p ∈ fewer.failed, p ∈ more.failed) :
    Saves fewer more
      (tryLengths attempt shortest count fewer)
      (tryLengths attempt shortest count more) := by
  induction count generalizing fewer more with
  | zero =>
      exact Saves.idle hSubset .stuck
  | succ count ih =>
      have hFirst := hAttempt (shortest + count) fewer more
        hFewer hMore hSubset
      have hFirstClosed :=
        hClosed (shortest + count) fewer hFewer
      have hSecondClosed :=
        hClosed (shortest + count) more hMore
      rw [tryLengths, tryLengths]
      rcases hFirstEnds : attempt (shortest + count) fewer
        with ⟨outcome, firstLater⟩
      rcases hSecondEnds : attempt (shortest + count) more
        with ⟨other, secondLater⟩
      rw [hFirstEnds] at hFirst hFirstClosed
      rw [hSecondEnds] at hFirst hSecondClosed
      obtain rfl : other = outcome := hFirst.outcome_eq
      cases other with
      | stuck =>
          have hRest := ih hFirstClosed hSecondClosed
            hFirst.subset
          have hFirstSteps := hFirst.steps_le
          have hRestSteps := hRest.steps_le
          refine ⟨hRest.outcome_eq, hRest.subset, ?_⟩
          simp only at hFirstSteps hRestSteps ⊢
          omega
      | found lengths => exact hFirst
      | exhausted => exact hFirst

/-
  Whoever remembers more has the same outcome, remembers more
  in the end, and takes no more steps.
-/
theorem explore_saves
    {later : List Slot}
    {place : Place}
    (hDrop : slots.drop place.index = later)
    (hIndex : place.index ≤ slots.length)
    {fewer more : Progress}
    (hFewer : Closed slots data fewer.failed)
    (hMore : Closed slots data more.failed)
    (hSubset : ∀ p ∈ fewer.failed, p ∈ more.failed) :
    Saves fewer more
      (explore data none later place fewer)
      (explore data none later place more) := by
  induction later generalizing place fewer more with
  | nil =>
      rw [explore_nil, explore_nil]
      split <;> exact Saves.idle hSubset _
  | cons slot later ih =>
      cases hCandidates :
          slot.candidates data place.offset with
      | none =>
          rw [explore_cons_of_none hCandidates,
            explore_cons_of_none hCandidates]
          exact settle_saves place
            (Saves.idle hSubset .stuck)
      | some range =>
          rw [explore_cons_of_some hCandidates,
            explore_cons_of_some hCandidates]
          apply settle_saves
          apply tryLengths_saves _ _ _ _ hFewer hMore hSubset
          · intro length progress hClosed
            exact attempt_closed none hDrop length hClosed
          · intro length fewer more hFewer hMore hSubset
            apply attempt_saves hDrop _ length hFewer hMore
              hSubset
            intro next fewer more hNextDrop hNextIndex
            exact ih hNextDrop hNextIndex

end Search

end TextTemplate
