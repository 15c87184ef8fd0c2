import Mathlib.Algebra.BigOperators.Intervals
import Mathlib.Algebra.Order.BigOperators.Group.Finset
import TextTemplate.Proofs.Search.Candidates
import TextTemplate.Proofs.Search.Walk

/-
  The cost of a search, by the places that it can come to.

  A fresh search walks reachable places only, and each of
  them once.  When it gets stuck it has walked all of them
  with all their candidates, so its steps are the candidates
  of all reachable places.  There are no more of these than
  the pieces and the input leave room for.

  Main declarations:
    * `Search.Reachable`
    * `Search.exploreWalks_reachable`
    * `Search.start_walks_of_stuck`
    * `Search.sum_widthAt_le`
    * `Search.walks_reachable_once`
-/

------------------------------------------------------------
-- Reachable Places
------------------------------------------------------------

namespace TextTemplate

namespace Search

variable {slots : List Slot}
variable {data : ByteArray}

/-
  The places that a search can come to: the start, and what
  follows a fitting candidate at such a place as long as
  there is a slot for it.
-/
inductive Reachable
    (slots : List Slot)
    (data : ByteArray) : Place → Prop where
  | start : Reachable slots data ⟨0, 0⟩
  | step
      {place : Place}
      {length : Nat}
      (hPlace : Reachable slots data place)
      (hNext : place.index + 1 < slots.length)
      (hViable : Viable slots data place length) :
      Reachable slots data (place.after length)

/- Only the start may be without a slot. -/
theorem Reachable.start_or_index_lt
    {place : Place}
    (hReachable : Reachable slots data place) :
    place = ⟨0, 0⟩ ∨ place.index < slots.length := by
  cases hReachable with
  | start => exact Or.inl rfl
  | step _ hNext _ => exact Or.inr hNext

/- A fitting candidate ends within the input. -/
theorem Viable.le_size
    {place : Place}
    {length : Nat}
    (hViable : Viable slots data place length) :
    place.offset + length ≤ data.size := by
  rcases hViable with ⟨slot, _, hOffers, _⟩
  have hLengths :=
    ((slot.offers_iff data place.offset length).mp
      hOffers).1
  omega

theorem Reachable.offset_le
    {place : Place}
    (hReachable : Reachable slots data place) :
    place.offset ≤ data.size := by
  cases hReachable with
  | start => exact Nat.zero_le _
  | step _ _ hViable => exact hViable.le_size

/- The reachable places are finitely many. -/
theorem exists_reachable
    (slots : List Slot)
    (data : ByteArray) :
    ∃ places : Finset Place,
      ∀ place, place ∈ places ↔
        Reachable slots data place := by
  classical
  let corners :=
    Finset.range (slots.length + 1) ×ˢ
      Finset.range (data.size + 1)
  refine
    ⟨(corners.image fun corner =>
        (⟨corner.1, corner.2⟩ : Place)).filter
      (Reachable slots data), ?_⟩
  intro place
  rw [Finset.mem_filter, and_iff_right_iff_imp]
  intro hReachable
  have hOffset := hReachable.offset_le
  have hIndex : place.index ≤ slots.length := by
    rcases hReachable.start_or_index_lt with hStart | hLess
    · rw [hStart]
      exact Nat.zero_le _
    · exact Nat.le_of_lt hLess
  refine Finset.mem_image.mpr
    ⟨(place.index, place.offset), ?_, rfl⟩
  rw [Finset.mem_product, Finset.mem_range,
    Finset.mem_range]
  exact ⟨Nat.lt_succ_of_le hIndex, Nat.lt_succ_of_le hOffset⟩

end Search

end TextTemplate

------------------------------------------------------------
-- Walks of Reachable Places
------------------------------------------------------------

namespace TextTemplate

namespace Search

variable {slots : List Slot}
variable {data : ByteArray}

/- The walks that lengths lead to come from one of them. -/
theorem exists_of_mem_tally
    {attempt : Nat → Progress → Outcome × Progress}
    {onward : Nat → Progress → List Walk}
    {shortest count : Nat}
    {progress : Progress}
    {walk : Walk}
    (hWalk :
      walk ∈
        (tally attempt onward shortest count progress).2) :
    ∃ length later,
      shortest ≤ length ∧ length < shortest + count ∧
        walk ∈ onward length later := by
  induction count generalizing progress with
  | zero => cases hWalk
  | succ count ih =>
      rw [tally] at hWalk
      have hFirst :
          walk ∈ onward (shortest + count) progress →
            ∃ length later,
              shortest ≤ length ∧
                length < shortest + (count + 1) ∧
                walk ∈ onward length later := by
        intro hMem
        exact
          ⟨shortest + count, progress, by omega, by omega,
            hMem⟩
      split at hWalk
      · rcases List.mem_append.mp hWalk with hMem | hRest
        · exact hFirst hMem
        · rcases ih hRest with
            ⟨length, later, hLower, hUpper, hMem⟩
          exact ⟨length, later, hLower, by omega, hMem⟩
      · exact hFirst hWalk

/- From a reachable place only such places are walked. -/
theorem exploreWalks_reachable
    (budget : Option Int)
    {later : List Slot}
    {place : Place}
    (hDrop : slots.drop place.index = later)
    (hPlace : Reachable slots data place)
    (progress : Progress) :
    ∀ walk ∈ exploreWalks data budget later place progress,
      Reachable slots data walk.place := by
  induction later generalizing place progress with
  | nil => simp [exploreWalks]
  | cons slot later ih =>
      cases hCandidates :
          slot.candidates data place.offset with
      | none =>
          rw [exploreWalks_cons_of_none hCandidates]
          simp
      | some range =>
          rw [exploreWalks_cons_of_some hCandidates]
          refine List.forall_mem_cons.mpr ⟨hPlace, ?_⟩
          intro walk hWalk
          rcases exists_of_mem_tally hWalk with
            ⟨length, middle, hLower, hUpper, hMem⟩
          rcases attempt_walks_cases data budget slot
            (explore data budget later)
            (exploreWalks data budget later) place length
            middle with ⟨_, _, hNone⟩ | ⟨hFits, _, _, hNext⟩
          · rw [hNone] at hMem
            cases hMem
          · rw [hNext] at hMem
            have hOffers :
                slot.Offers data place.offset length :=
              ⟨range, hCandidates, hLower,
                range.lt_shortest_add_count.mp hUpper⟩
            have hViable : Viable slots data place length :=
              (viable_iff
                (getElem?_of_drop_eq_cons hDrop)).mpr
                  ⟨hOffers, hFits⟩
            have hLater : slots.drop (place.index + 1) = later :=
              drop_succ_of_drop_eq_cons hDrop
            -- the last slot leads to no walk
            have hSlot : place.index + 1 < slots.length := by
              by_contra hEnd
              rw [List.drop_eq_nil_of_le
                (Nat.le_of_not_lt hEnd)] at hLater
              subst hLater
              cases hMem
            exact ih hLater (.step hPlace hSlot hViable)
              middle.advance walk hMem

/- A closed memo with the start has all reachable places. -/
theorem Reachable.mem_of_closed
    {memo : Memo}
    (hClosed : Closed slots data memo)
    (hStart : ⟨0, 0⟩ ∈ memo)
    {place : Place}
    (hReachable : Reachable slots data place) :
    place ∈ memo := by
  induction hReachable with
  | start => exact hStart
  | step _ hNext hViable ih =>
      exact ((hClosed _ ih).2 _ hViable).mem hNext

end Search

end TextTemplate

------------------------------------------------------------
-- Walks of Fresh Searches
------------------------------------------------------------

namespace TextTemplate

namespace Search

variable {pieces : List Piece}
variable {data : ByteArray}

theorem start_walks_reachable
    (pieces : List Piece)
    (data : ByteArray)
    (budget : Option Int) :
    ∀ walk ∈ (start pieces data budget).walks,
      Reachable (Slot.ofPieces pieces) data walk.place :=
  exploreWalks_reachable budget List.drop_zero .start .start

theorem start_tracked
    (pieces : List Piece)
    (data : ByteArray)
    (budget : Option Int) :
    Tracked (Slot.ofPieces pieces) data 0 .empty
      ((start pieces data budget).run.1,
        (start pieces data budget).run.2.progress)
      (start pieces data budget).walks := by
  have hNew : (⟨0, 0⟩ : Place) ∉ Progress.start.failed :=
    Memo.not_mem_empty ⟨0, 0⟩
  exact explore_tracked budget List.drop_zero hNew

/-
  A fresh search that gets stuck has walked every reachable
  place with candidates.
-/
theorem start_walks_of_stuck
    {budget : Option Int}
    (hStuck : (start pieces data budget).run.1 = .stuck)
    {place : Place}
    (hReachable :
      Reachable (Slot.ofPieces pieces) data place) :
    widthAt (Slot.ofPieces pieces) data place = 0 ∨
      place ∈
        (start pieces data budget).walks.map Walk.place := by
  have hJustified := start_justified pieces data budget
  by_cases hSlots : 0 < (Slot.ofPieces pieces).length
  · have hStart := (hJustified.refuted hStuck).mem hSlots
    have hMem :=
      hReachable.mem_of_closed hJustified.closed hStart
    exact (start_tracked pieces data budget).walked place hMem
      (Memo.not_mem_empty place)
  · left
    rw [widthAt, List.getElem?_eq_none (by omega)]
    rfl

end Search

end TextTemplate

------------------------------------------------------------
-- Sums over Reachable Places
------------------------------------------------------------

namespace TextTemplate

namespace Search

variable {slots : List Slot}
variable {data : ByteArray}

/- A place has no more candidates than lengths are left. -/
theorem widthAt_le
    (slots : List Slot)
    (data : ByteArray)
    (place : Place) :
    widthAt slots data place ≤
      data.size + 1 - place.offset := by
  rw [widthAt]
  cases slots[place.index]? with
  | none => exact Nat.zero_le _
  | some slot =>
      rw [Option.elim_some, Slot.width]
      cases hCandidates :
          slot.candidates data place.offset with
      | none => exact Nat.zero_le _
      | some range =>
          have hOffers :
              slot.Offers data place.offset range.longest :=
            ⟨range, hCandidates, range.ordered,
              Nat.le_refl _⟩
          have hLengths :=
            ((slot.offers_iff data place.offset _).mp
              hOffers).1
          rw [Option.elim_some, LengthRange.count]
          omega

/- The lengths left at all offsets, twice. -/
theorem sum_lengths_mul_two
    (size : Nat) :
    (∑ offset ∈ Finset.range (size + 1),
      (size + 1 - offset)) * 2 = (size + 1) * (size + 2) := by
  have hReflect := Finset.sum_range_reflect
    (fun offset => offset + 1) (size + 1)
  have hGauss := Finset.sum_range_id_mul_two (size + 2)
  rw [Finset.sum_range_succ'] at hGauss
  have hSame :
      ∑ offset ∈ Finset.range (size + 1),
          (size + 1 - offset) =
        ∑ offset ∈ Finset.range (size + 1),
          (size + 1 - 1 - offset + 1) := by
    apply Finset.sum_congr rfl
    intro offset hOffset
    rw [Finset.mem_range] at hOffset
    omega
  rw [hSame, hReflect]
  simpa [Nat.mul_comm] using hGauss

/-
  All places together have no more candidates than lengths
  are left at all offsets, for each slot.
-/
theorem sum_widthAt_le
    (slots : List Slot)
    (data : ByteArray)
    (places : Finset Place)
    (hPlaces :
      ∀ place ∈ places, place.offset ≤ data.size) :
    ∑ place ∈ places, widthAt slots data place ≤
      slots.length * (data.size + 1) * (data.size + 2) /
        2 := by
  let corners :=
    Finset.range slots.length ×ˢ
      Finset.range (data.size + 1)
  let placeOf : Nat × Nat → Place :=
    fun corner => ⟨corner.1, corner.2⟩
  have hInjective : Function.Injective placeOf := by
    intro corner other hSame
    exact Prod.ext (congrArg Place.index hSame)
      (congrArg Place.offset hSame)
  have hCorners :
      ∀ place ∈ places, widthAt slots data place ≠ 0 →
        place ∈ corners.image placeOf := by
    intro place hPlace hWidth
    refine Finset.mem_image.mpr
      ⟨(place.index, place.offset), ?_, rfl⟩
    rw [Finset.mem_product, Finset.mem_range,
      Finset.mem_range]
    refine ⟨?_, Nat.lt_succ_of_le (hPlaces place hPlace)⟩
    by_contra hEnd
    apply hWidth
    rw [widthAt,
      List.getElem?_eq_none (Nat.le_of_not_lt hEnd)]
    rfl
  have hSum :
      ∑ place ∈ places, widthAt slots data place ≤
        slots.length *
          ∑ offset ∈ Finset.range (data.size + 1),
            (data.size + 1 - offset) := by
    calc
      ∑ place ∈ places, widthAt slots data place
          ≤ ∑ place ∈ corners.image placeOf,
              widthAt slots data place :=
            Finset.sum_le_sum_of_ne_zero hCorners
      _ = ∑ corner ∈ corners,
            widthAt slots data (placeOf corner) :=
          Finset.sum_image (hInjective.injOn)
      _ ≤ ∑ corner ∈ corners,
            (data.size + 1 - corner.2) :=
          Finset.sum_le_sum fun corner _ =>
            widthAt_le slots data (placeOf corner)
      _ = ∑ _index ∈ Finset.range slots.length,
            ∑ offset ∈ Finset.range (data.size + 1),
              (data.size + 1 - offset) :=
          Finset.sum_product _ _ _
      _ = (Finset.range slots.length).card *
            ∑ offset ∈ Finset.range (data.size + 1),
              (data.size + 1 - offset) :=
          Finset.sum_const_nat fun _ _ => rfl
      _ = slots.length *
            ∑ offset ∈ Finset.range (data.size + 1),
              (data.size + 1 - offset) := by
          rw [Finset.card_range]
  rw [Nat.le_div_iff_mul_le (by decide)]
  calc
    (∑ place ∈ places, widthAt slots data place) * 2
        ≤ slots.length *
            (∑ offset ∈ Finset.range (data.size + 1),
              (data.size + 1 - offset)) * 2 :=
          Nat.mul_le_mul_right 2 hSum
    _ = slots.length * (data.size + 1) *
          (data.size + 2) := by
        rw [Nat.mul_assoc, sum_lengths_mul_two,
          Nat.mul_assoc]

end Search

end TextTemplate

------------------------------------------------------------
-- The Cost of a Search
------------------------------------------------------------

namespace TextTemplate

namespace Search

variable {slots : List Slot}
variable {data : ByteArray}

/- The candidates of distinct places that are walked. -/
theorem sum_widthAt_walks
    {walks : List Walk}
    (hDistinct : (walks.map Walk.place).Nodup) :
    ∑ place ∈ (walks.map Walk.place).toFinset,
        widthAt slots data place =
      (walks.map fun walk =>
        widthAt slots data walk.place).sum := by
  rw [List.sum_toFinset _ hDistinct, List.map_map]
  rfl

/- Walks of distinct places try no more than there is. -/
theorem total_le_sum_widthAt
    {walks : List Walk}
    (hDistinct : (walks.map Walk.place).Nodup)
    (hTried :
      ∀ walk ∈ walks,
        walk.tried ≤ widthAt slots data walk.place)
    {places : Finset Place}
    (hPlaces : ∀ walk ∈ walks, walk.place ∈ places) :
    Walk.total walks ≤
      ∑ place ∈ places, widthAt slots data place := by
  have hSubset :
      (walks.map Walk.place).toFinset ⊆ places := by
    intro place hPlace
    rw [List.mem_toFinset] at hPlace
    rcases List.mem_map.mp hPlace with ⟨walk, hWalk, rfl⟩
    exact hPlaces walk hWalk
  calc
    Walk.total walks
        ≤ (walks.map fun walk =>
            widthAt slots data walk.place).sum :=
          List.sum_le_sum hTried
    _ = ∑ place ∈ (walks.map Walk.place).toFinset,
          widthAt slots data place :=
        (sum_widthAt_walks hDistinct).symm
    _ ≤ ∑ place ∈ places, widthAt slots data place :=
        Finset.sum_le_sum_of_subset hSubset

/-
  Walks of distinct places that try all candidates, and leave
  out only places without any, try as many as there are.
-/
theorem total_eq_sum_widthAt
    {walks : List Walk}
    (hDistinct : (walks.map Walk.place).Nodup)
    (hTried :
      ∀ walk ∈ walks,
        walk.tried = widthAt slots data walk.place)
    {places : Finset Place}
    (hPlaces : ∀ walk ∈ walks, walk.place ∈ places)
    (hAll :
      ∀ place ∈ places,
        widthAt slots data place = 0 ∨
          place ∈ walks.map Walk.place) :
    Walk.total walks =
      ∑ place ∈ places, widthAt slots data place := by
  apply Nat.le_antisymm
  · apply total_le_sum_widthAt hDistinct _ hPlaces
    intro walk hWalk
    exact Nat.le_of_eq (hTried walk hWalk)
  · have hWalked :
        ∀ place ∈ places, widthAt slots data place ≠ 0 →
          place ∈ (walks.map Walk.place).toFinset := by
      intro place hPlace hWidth
      rw [List.mem_toFinset]
      exact (hAll place hPlace).resolve_left hWidth
    calc
      ∑ place ∈ places, widthAt slots data place
          ≤ ∑ place ∈ (walks.map Walk.place).toFinset,
              widthAt slots data place :=
            Finset.sum_le_sum_of_ne_zero hWalked
      _ = (walks.map fun walk =>
            widthAt slots data walk.place).sum :=
          sum_widthAt_walks hDistinct
      _ = Walk.total walks :=
          congrArg List.sum (List.map_congr_left
            fun walk hWalk => (hTried walk hWalk).symm)

end Search

end TextTemplate

------------------------------------------------------------
-- The Cost of a Fresh Search
------------------------------------------------------------

namespace TextTemplate

namespace Search

variable {pieces : List Piece}
variable {data : ByteArray}

/- The number of candidates of a search at a place. -/
def width
    (search : Search)
    (place : Place) : Nat :=
  (search.candidates place.index place.offset).elim 0
    LengthRange.count

theorem width_eq
    (search : Search)
    (place : Place) :
    search.width place =
      widthAt search.slots search.data place := by
  rw [width, candidates, widthAt]
  cases search.slots[place.index]? <;> rfl

/- A fresh search takes no more steps than there are. -/
theorem start_steps_le_sum
    (budget : Option Int)
    {places : Finset Place}
    (hPlaces :
      ∀ place, place ∈ places ↔
        Reachable (Slot.ofPieces pieces) data place) :
    (start pieces data budget).run.2.steps ≤
      ∑ place ∈ places,
        widthAt (Slot.ofPieces pieces) data place := by
  have hTracked := start_tracked pieces data budget
  have hReachable :=
    start_walks_reachable pieces data budget
  rw [run_steps_eq, steps_start, Nat.zero_add]
  apply total_le_sum_widthAt hTracked.distinct
    hTracked.tried_le
  intro walk hWalk
  exact (hPlaces walk.place).mpr (hReachable walk hWalk)

/- A fresh search that gets stuck takes all of them. -/
theorem start_steps_eq_sum_of_stuck
    {budget : Option Int}
    (hStuck : (start pieces data budget).run.1 = .stuck)
    {places : Finset Place}
    (hPlaces :
      ∀ place, place ∈ places ↔
        Reachable (Slot.ofPieces pieces) data place) :
    (start pieces data budget).run.2.steps =
      ∑ place ∈ places,
        widthAt (Slot.ofPieces pieces) data place := by
  have hTracked := start_tracked pieces data budget
  have hReachable :=
    start_walks_reachable pieces data budget
  rw [run_steps_eq, steps_start, Nat.zero_add]
  apply total_eq_sum_widthAt hTracked.distinct
  · intro walk hWalk
    exact (hTracked.finished hStuck walk hWalk).2
  · intro walk hWalk
    exact (hPlaces walk.place).mpr (hReachable walk hWalk)
  · intro place hPlace
    exact start_walks_of_stuck hStuck
      ((hPlaces place).mp hPlace)

/- The steps are bounded by the pieces and the input. -/
theorem start_steps_le
    (pieces : List Piece)
    (data : ByteArray)
    (budget : Option Int) :
    (start pieces data budget).run.2.steps ≤
      pieces.length * (data.size + 1) * (data.size + 2) /
        2 := by
  rcases exists_reachable (Slot.ofPieces pieces) data with
    ⟨places, hPlaces⟩
  have hSum := sum_widthAt_le (Slot.ofPieces pieces) data
    places fun place hPlace =>
      ((hPlaces place).mp hPlace).offset_le
  rw [Slot.length_ofPieces] at hSum
  exact Nat.le_trans (start_steps_le_sum budget hPlaces) hSum

/-
  No place is walked twice in a run, and the steps of a run
  are the candidates tried on its walks.  A fresh search
  walks reachable places only.  When it gets stuck, its steps
  are the candidates of all reachable places, and when it
  finds a way through, they are no more.  So the steps are
  bounded by the number of pieces and the size of the input,
  and a budget of that many is never exhausted.
-/
theorem walks_reachable_once :
    (∀ search : Search,
      (search.walks.map Walk.place).Nodup ∧
      search.run.2.steps =
        search.steps + Walk.total search.walks) ∧
    (∀ (pieces : List Piece) (data : ByteArray),
      let search := start pieces data none
      ∃ places : Finset Place,
        (∀ place, place ∈ places ↔
          Reachable search.slots search.data place) ∧
        (∀ walk ∈ search.walks,
          walk.place ∈ places ∧
            walk.tried ≤ search.width walk.place) ∧
        (search.run.1 = .stuck →
          search.run.2.steps =
            ∑ place ∈ places, search.width place) ∧
        (∀ lengths, search.run.1 = .found lengths →
          search.run.2.steps ≤
            ∑ place ∈ places, search.width place)) ∧
    (∀ (pieces : List Piece) (data : ByteArray),
      let bound :=
        pieces.length * (data.size + 1) * (data.size + 2) / 2
      (∀ budget,
        (start pieces data budget).run.2.steps ≤ bound) ∧
      ∀ limit : Int, bound ≤ limit →
        (start pieces data (some limit)).run.1 ≠
          .exhausted) := by
  refine ⟨?_, ?_, ?_⟩
  · intro search
    exact ⟨search.walks_distinct, search.run_steps_eq⟩
  · intro pieces data search
    rcases exists_reachable search.slots search.data with
      ⟨places, hPlaces⟩
    refine ⟨places, hPlaces, ?_, ?_, ?_⟩
    · intro walk hWalk
      have hReachable :=
        start_walks_reachable pieces data none walk hWalk
      have hTried :=
        (start_tracked pieces data none).tried_le walk hWalk
      rw [width_eq]
      exact ⟨(hPlaces walk.place).mpr hReachable, hTried⟩
    · intro hStuck
      simp only [width_eq]
      exact start_steps_eq_sum_of_stuck hStuck hPlaces
    · intro lengths _
      simp only [width_eq]
      exact start_steps_le_sum none hPlaces
  · intro pieces data bound
    refine ⟨start_steps_le pieces data, ?_⟩
    intro limit hLimit
    have hSteps := start_steps_le pieces data none
    have hRun := (start pieces data none).run_of_limit limit
    rw [withBudget_start, withBudget_start,
      if_pos (by omega)] at hRun
    rw [hRun.1]
    exact explore_none_ne_exhausted _ _ _ _

/-
  Three fields before a letter that the input lacks: places
  at the third field are met in several ways.
-/
theorem walks_reachable_once_missing_letter :
    let pieces : List Piece :=
      [⟨.named "x", .all, .anyByte⟩,
        ⟨.named "y", .all, .anyByte⟩,
        ⟨.named "z", .all, .anyByte⟩, .literal ⟨#[98]⟩]
    let search := start pieces ⟨#[97, 97, 97, 97]⟩ none
    ∃ places : Finset Place,
      (∀ place, place ∈ places ↔
        Reachable search.slots search.data place) ∧
      ∑ place ∈ places, search.width place = 18 := by
  intro pieces search
  rcases
      walks_reachable_once.2.1 pieces ⟨#[97, 97, 97, 97]⟩ with
    ⟨places, hPlaces, _, hStuck, _⟩
  have hEnds : search.run.1 = .stuck := by decide
  have hSteps : search.run.2.steps = 18 := by decide
  exact ⟨places, hPlaces, by rw [← hStuck hEnds, hSteps]⟩

end Search

end TextTemplate
