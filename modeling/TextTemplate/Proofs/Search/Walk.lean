import TextTemplate.Proofs.Search.Savings

/-
  The walks of an exploration.

  A walk of a place tries its candidates, the greatest first.
  The walks of an exploration are listed in the order in
  which they begin, each with the number of candidates
  tried.  Every step of the exploration is one candidate of
  one walk.

  A place is walked only when it is not remembered, and it is
  remembered before the next one of its kind is met.  So no
  place is walked twice, and what is remembered in the end
  was walked with all its candidates.

  Main declarations:
    * `Search.exploreWalks`
    * `Search.explore_steps_eq`
    * `Search.Tracked`
    * `Search.explore_tracked`
    * `Search.walks_distinct`
-/

------------------------------------------------------------
-- Walks
------------------------------------------------------------

namespace TextTemplate

/- A place and how many of its candidates were tried. -/
structure Walk where
  place : Place
  tried : Nat

/- The number of candidates tried on several walks. -/
def Walk.total
    (walks : List Walk) : Nat :=
  (walks.map tried).sum

theorem Walk.total_cons
    (walk : Walk)
    (walks : List Walk) :
    total (walk :: walks) = walk.tried + total walks :=
  List.sum_cons

theorem Walk.total_append
    (first second : List Walk) :
    total (first ++ second) = total first + total second := by
  rw [total, List.map_append, List.sum_append, total, total]

namespace Search

/-
  The walks that an attempt at a candidate leads to; `onward`
  gives those from the next place on.
-/
def attemptWalks
    (data : ByteArray)
    (budget : Option Int)
    (slot : Slot)
    (onward : Place → Progress → List Walk)
    (place : Place)
    (length : Nat)
    (progress : Progress) : List Walk :=
  let progress := progress.advance
  if progress.exceeds budget then
    []
  else if !slot.piece.fits data place.offset length then
    []
  else if
    progress.failed.contains (place.after length)
  then
    []
  else
    onward (place.after length) progress

/-
  How many lengths are tried one after another, and the walks
  that they lead to.
-/
def tally
    (attempt : Nat → Progress → Outcome × Progress)
    (onward : Nat → Progress → List Walk)
    (shortest : Nat) : Nat → Progress → Nat × List Walk
  | 0, _ => (0, [])
  | count + 1, progress =>
      let first := onward (shortest + count) progress
      match attempt (shortest + count) progress with
      | (.stuck, progress) =>
          let rest :=
            tally attempt onward shortest count progress
          (rest.1 + 1, first ++ rest.2)
      | _ => (1, first)

/- The walks of an exploration. -/
def exploreWalks
    (data : ByteArray)
    (budget : Option Int) :
    List Slot → Place → Progress → List Walk
  | [], _, _ => []
  | slot :: later, place, progress =>
      match slot.candidates data place.offset with
      | none => []
      | some range =>
          let tallied :=
            tally
              (attempt data budget slot
                (explore data budget later) place)
              (attemptWalks data budget slot
                (exploreWalks data budget later) place)
              range.shortest range.count progress
          ⟨place, tallied.1⟩ :: tallied.2

/- A slot without candidates is not walked. -/
theorem exploreWalks_cons_of_none
    {data : ByteArray}
    {slot : Slot}
    {place : Place}
    (hNone : slot.candidates data place.offset = none)
    (budget : Option Int)
    (later : List Slot)
    (progress : Progress) :
    exploreWalks data budget (slot :: later) place progress =
      [] := by
  rw [exploreWalks, hNone]

/- The walk of a place comes before those it leads to. -/
theorem exploreWalks_cons_of_some
    {data : ByteArray}
    {slot : Slot}
    {place : Place}
    {range : LengthRange}
    (hSome : slot.candidates data place.offset = some range)
    (budget : Option Int)
    (later : List Slot)
    (progress : Progress) :
    let tallied :=
      tally
        (attempt data budget slot
          (explore data budget later) place)
        (attemptWalks data budget slot
          (exploreWalks data budget later) place)
        range.shortest range.count progress
    exploreWalks data budget (slot :: later) place progress =
      ⟨place, tallied.1⟩ :: tallied.2 := by
  rw [exploreWalks, hSome]

end Search

end TextTemplate

------------------------------------------------------------
-- Steps of Walks
------------------------------------------------------------

namespace TextTemplate

namespace Search

/-
  An attempt either stops at its own step and leads to no
  walk, or it explores a next place that fits and is not
  remembered.
-/
theorem attempt_walks_cases
    (data : ByteArray)
    (budget : Option Int)
    (slot : Slot)
    (proceed : Place → Progress → Outcome × Progress)
    (onward : Place → Progress → List Walk)
    (place : Place)
    (length : Nat)
    (progress : Progress) :
    (∃ outcome,
      attempt data budget slot proceed place length
          progress = (outcome, progress.advance) ∧
        attemptWalks data budget slot onward place length
          progress = []) ∨
    (slot.piece.fits data place.offset length = true ∧
      place.after length ∉ progress.failed ∧
      attempt data budget slot proceed place length
          progress =
        ((proceed (place.after length)
            progress.advance).1.prepend length,
          (proceed (place.after length)
            progress.advance).2) ∧
      attemptWalks data budget slot onward place length
          progress =
        onward (place.after length) progress.advance) := by
  unfold attempt attemptWalks
  simp only
  split
  · exact Or.inl ⟨_, rfl, rfl⟩
  · split
    · exact Or.inl ⟨_, rfl, rfl⟩
    · rename_i hFits
      rw [Bool.not_eq_true, Bool.not_eq_false'] at hFits
      split
      · exact Or.inl ⟨_, rfl, rfl⟩
      · rename_i hMem
        exact Or.inr ⟨hFits, hMem, rfl, rfl⟩

/-
  An attempt takes a step of its own, and the steps of the
  walks that it leads to.
-/
theorem attempt_steps_eq
    (data : ByteArray)
    (budget : Option Int)
    (slot : Slot)
    {proceed : Place → Progress → Outcome × Progress}
    {onward : Place → Progress → List Walk}
    (hProceed :
      ∀ next progress,
        (proceed next progress).2.steps =
          progress.steps +
            Walk.total (onward next progress))
    (place : Place)
    (length : Nat)
    (progress : Progress) :
    (attempt data budget slot proceed place length
        progress).2.steps =
      progress.steps + 1 +
        Walk.total
          (attemptWalks data budget slot onward place length
            progress) := by
  rcases attempt_walks_cases data budget slot proceed onward
    place length progress with
    ⟨outcome, hEnds, hWalks⟩ | ⟨_, _, hEnds, hWalks⟩
  · rw [hEnds, hWalks]
    rfl
  · rw [hEnds, hWalks]
    exact hProceed (place.after length) progress.advance

/- Lengths that are tried take one step each. -/
theorem tally_steps_eq
    {attempt : Nat → Progress → Outcome × Progress}
    {onward : Nat → Progress → List Walk}
    (hAttempt :
      ∀ length progress,
        (attempt length progress).2.steps =
          progress.steps + 1 +
            Walk.total (onward length progress))
    (shortest count : Nat)
    (progress : Progress) :
    (tryLengths attempt shortest count progress).2.steps =
      progress.steps +
        (tally attempt onward shortest count progress).1 +
        Walk.total
          (tally attempt onward shortest count
            progress).2 := by
  induction count generalizing progress with
  | zero => rfl
  | succ count ih =>
      have hFirst := hAttempt (shortest + count) progress
      rw [tryLengths, tally]
      rcases hEnds : attempt (shortest + count) progress
        with ⟨outcome, later⟩
      rw [hEnds] at hFirst
      cases outcome with
      | stuck =>
          have hRest := ih later
          simp only [Walk.total_append] at hFirst hRest ⊢
          omega
      | found lengths => exact hFirst
      | exhausted => exact hFirst

/- The steps of an exploration are those of its walks. -/
theorem explore_steps_eq
    (data : ByteArray)
    (budget : Option Int)
    (slots : List Slot)
    (place : Place)
    (progress : Progress) :
    (explore data budget slots place progress).2.steps =
      progress.steps +
        Walk.total
          (exploreWalks data budget slots place
            progress) := by
  induction slots generalizing place progress with
  | nil =>
      rw [explore_nil]
      split <;> rfl
  | cons slot later ih =>
      cases hCandidates :
          slot.candidates data place.offset with
      | none =>
          rw [explore_cons_of_none hCandidates,
            exploreWalks_cons_of_none hCandidates]
          rfl
      | some range =>
          have hTried := tally_steps_eq
            (attempt_steps_eq data budget slot ih place)
            range.shortest range.count progress
          rw [explore_cons_of_some hCandidates, settle_steps,
            exploreWalks_cons_of_some hCandidates,
            Walk.total_cons, hTried, Nat.add_assoc]

end Search

end TextTemplate

------------------------------------------------------------
-- Candidates Tried
------------------------------------------------------------

namespace TextTemplate

namespace Search

/- The number of candidates at a place. -/
def widthAt
    (slots : List Slot)
    (data : ByteArray)
    (place : Place) : Nat :=
  slots[place.index]?.elim 0 fun slot =>
    slot.width data place.offset

/- The slot at a place decides how many there are. -/
theorem widthAt_eq
    {slots : List Slot}
    {place : Place}
    {slot : Slot}
    (hSlot : slots[place.index]? = some slot)
    (data : ByteArray) :
    widthAt slots data place =
      slot.width data place.offset := by
  rw [widthAt, hSlot]
  rfl

/- No more lengths are tried than there are. -/
theorem tally_le_count
    (attempt : Nat → Progress → Outcome × Progress)
    (onward : Nat → Progress → List Walk)
    (shortest count : Nat)
    (progress : Progress) :
    (tally attempt onward shortest count progress).1 ≤
      count := by
  induction count generalizing progress with
  | zero => exact Nat.le_refl 0
  | succ count ih =>
      rw [tally]
      split
      · exact Nat.succ_le_succ (ih _)
      · exact Nat.succ_le_succ (Nat.zero_le count)

/- All lengths are tried when each of them gets stuck. -/
theorem tally_eq_count_of_stuck
    {attempt : Nat → Progress → Outcome × Progress}
    (onward : Nat → Progress → List Walk)
    {shortest count : Nat}
    {progress : Progress}
    (hStuck :
      (tryLengths attempt shortest count progress).1 =
        .stuck) :
    (tally attempt onward shortest count progress).1 =
      count := by
  induction count generalizing progress with
  | zero => rfl
  | succ count ih =>
      rw [tryLengths] at hStuck
      rw [tally]
      rcases hEnds : attempt (shortest + count) progress
        with ⟨outcome, later⟩
      rw [hEnds] at hStuck
      cases outcome with
      | stuck => exact congrArg Nat.succ (ih hStuck)
      | found lengths => cases hStuck
      | exhausted => cases hStuck

end Search

end TextTemplate

------------------------------------------------------------
-- Tracked Explorations
------------------------------------------------------------

namespace TextTemplate

namespace Search

variable {slots : List Slot}
variable {data : ByteArray}

/-
  What the walks of an exploration have to do with what was
  known before it and what is remembered after it.  All of
  them are at slots from an index on.
-/
structure Tracked
    (slots : List Slot)
    (data : ByteArray)
    (index : Nat)
    (known : Memo)
    (ended : Outcome × Progress)
    (walks : List Walk) : Prop where
  grows : ∀ p ∈ known, p ∈ ended.2.failed
  distinct : (walks.map Walk.place).Nodup
  fresh :
    ∀ walk ∈ walks,
      index ≤ walk.place.index ∧ walk.place ∉ known
  tried_le :
    ∀ walk ∈ walks,
      walk.tried ≤ widthAt slots data walk.place
  finished :
    ended.1 = .stuck →
      ∀ walk ∈ walks,
        walk.place ∈ ended.2.failed ∧
          walk.tried = widthAt slots data walk.place
  walked :
    ∀ p ∈ ended.2.failed, p ∉ known →
      widthAt slots data p = 0 ∨ p ∈ walks.map Walk.place

/- Nothing is walked when nothing is remembered. -/
theorem Tracked.idle
    (index : Nat)
    (progress : Progress)
    (outcome : Outcome) :
    Tracked slots data index progress.failed
      (outcome, progress) [] where
  grows _ hp := hp
  distinct := List.nodup_nil
  fresh := by simp
  tried_le := by simp
  finished := by simp
  walked _ hp hNew := absurd hp hNew

/- A length put before an outcome changes no walk. -/
theorem Tracked.prepend
    {index : Nat}
    {known : Memo}
    {ended : Outcome × Progress}
    {walks : List Walk}
    (hTracked : Tracked slots data index known ended walks)
    (length : Nat) :
    Tracked slots data index known
      (ended.1.prepend length, ended.2) walks where
  grows := hTracked.grows
  distinct := hTracked.distinct
  fresh := hTracked.fresh
  tried_le := hTracked.tried_le
  finished hStuck :=
    hTracked.finished (Outcome.prepend_eq_stuck_iff.mp hStuck)
  walked := hTracked.walked

/-
  The walks of two explorations, where the second begins as
  the first got stuck.  A place of both would be remembered
  by the first and new to the second.
-/
theorem Tracked.append
    {index : Nat}
    {known : Memo}
    {middle : Progress}
    {ended : Outcome × Progress}
    {first second : List Walk}
    (hFirst :
      Tracked slots data index known (.stuck, middle) first)
    (hSecond :
      Tracked slots data index middle.failed ended second) :
    Tracked slots data index known ended
      (first ++ second) where
  grows p hp := hSecond.grows p (hFirst.grows p hp)
  distinct := by
    rw [List.map_append]
    refine List.nodup_append.mpr
      ⟨hFirst.distinct, hSecond.distinct, ?_⟩
    intro p hp q hq hSame
    subst hSame
    rcases List.mem_map.mp hp with ⟨early, hEarly, rfl⟩
    rcases List.mem_map.mp hq with ⟨late, hLate, hPlace⟩
    have hKnown := (hFirst.finished rfl early hEarly).1
    have hNew := (hSecond.fresh late hLate).2
    rw [hPlace] at hNew
    exact hNew hKnown
  fresh walk hWalk := by
    rcases List.mem_append.mp hWalk with hEarly | hLate
    · exact hFirst.fresh walk hEarly
    · have hLater := hSecond.fresh walk hLate
      exact
        ⟨hLater.1, fun hp =>
          hLater.2 (hFirst.grows walk.place hp)⟩
  tried_le walk hWalk := by
    rcases List.mem_append.mp hWalk with hEarly | hLate
    · exact hFirst.tried_le walk hEarly
    · exact hSecond.tried_le walk hLate
  finished hStuck walk hWalk := by
    rcases List.mem_append.mp hWalk with hEarly | hLate
    · have hDone := hFirst.finished rfl walk hEarly
      exact ⟨hSecond.grows walk.place hDone.1, hDone.2⟩
    · exact hSecond.finished hStuck walk hLate
  walked p hp hNew := by
    rw [List.map_append, List.mem_append]
    by_cases hMiddle : p ∈ middle.failed
    · rcases hFirst.walked p hMiddle hNew with hZero | hMem
      · exact Or.inl hZero
      · exact Or.inr (Or.inl hMem)
    · rcases hSecond.walked p hp hMiddle with hZero | hMem
      · exact Or.inl hZero
      · exact Or.inr (Or.inr hMem)

/- Only a place that got stuck is remembered at its end. -/
theorem mem_failed_settle
    {place p : Place}
    {ended : Outcome × Progress} :
    p ∈ (settle place ended).2.failed ↔
      ended.1 = .stuck ∧ p = place ∨ p ∈ ended.2.failed := by
  rcases ended with ⟨outcome, progress⟩
  cases outcome with
  | stuck =>
      simp only [true_and]
      exact Memo.mem_insert
  | found lengths => simp [settle]
  | exhausted => simp [settle]

theorem settle_stuck_iff
    {place : Place}
    {ended : Outcome × Progress} :
    (settle place ended).1 = .stuck ↔ ended.1 = .stuck := by
  rcases ended with ⟨outcome, progress⟩
  cases outcome <;> simp [settle]

/-
  A place that is not known is walked before all places at
  later slots, and remembered after them.
-/
theorem Tracked.settle
    {place : Place}
    {known : Memo}
    (hNew : place ∉ known)
    {tried : Outcome × Progress}
    {walks : List Walk}
    (hTracked :
      Tracked slots data (place.index + 1) known tried walks)
    {count : Nat}
    (hCount : count ≤ widthAt slots data place)
    (hAll :
      tried.1 = .stuck → count = widthAt slots data place) :
    Tracked slots data place.index known
      (settle place tried) (⟨place, count⟩ :: walks) where
  grows p hp :=
    mem_failed_settle.mpr (Or.inr (hTracked.grows p hp))
  distinct := by
    rw [List.map_cons, List.nodup_cons]
    refine ⟨?_, hTracked.distinct⟩
    intro hMem
    rcases List.mem_map.mp hMem with ⟨walk, hWalk, hSame⟩
    have hLater := (hTracked.fresh walk hWalk).1
    rw [hSame] at hLater
    exact Nat.not_succ_le_self place.index hLater
  fresh := by
    refine List.forall_mem_cons.mpr
      ⟨⟨Nat.le_refl _, hNew⟩, ?_⟩
    intro walk hWalk
    have hLater := hTracked.fresh walk hWalk
    exact ⟨Nat.le_of_succ_le hLater.1, hLater.2⟩
  tried_le :=
    List.forall_mem_cons.mpr ⟨hCount, hTracked.tried_le⟩
  finished hStuck := by
    rw [settle_stuck_iff] at hStuck
    refine List.forall_mem_cons.mpr ⟨?_, ?_⟩
    · exact
        ⟨mem_failed_settle.mpr (Or.inl ⟨hStuck, rfl⟩),
          hAll hStuck⟩
    · intro walk hWalk
      have hDone := hTracked.finished hStuck walk hWalk
      exact ⟨mem_failed_settle.mpr (Or.inr hDone.1), hDone.2⟩
  walked p hp hOther := by
    rw [List.map_cons, List.mem_cons]
    rcases mem_failed_settle.mp hp with ⟨_, hHere⟩ | hOld
    · exact Or.inr (Or.inl hHere)
    · rcases hTracked.walked p hOld hOther with hZero | hMem
      · exact Or.inl hZero
      · exact Or.inr (Or.inr hMem)

/-
  One attempt: the next place is walked only if it is not
  remembered.
-/
theorem attempt_tracked
    (budget : Option Int)
    (slot : Slot)
    {proceed : Place → Progress → Outcome × Progress}
    {onward : Place → Progress → List Walk}
    {place : Place}
    (hProceed :
      ∀ next progress,
        next.index = place.index + 1 →
        next ∉ progress.failed →
          Tracked slots data next.index progress.failed
            (proceed next progress) (onward next progress))
    (length : Nat)
    (progress : Progress) :
    Tracked slots data (place.index + 1) progress.failed
      (attempt data budget slot proceed place length progress)
      (attemptWalks data budget slot onward place length
        progress) := by
  rcases attempt_walks_cases data budget slot proceed onward
    place length progress with
    ⟨outcome, hEnds, hWalks⟩ | ⟨_, hMem, hEnds, hWalks⟩
  · rw [hEnds, hWalks]
    exact Tracked.idle (place.index + 1) progress.advance
      outcome
  · rw [hEnds, hWalks]
    have hNext := hProceed (place.after length)
      progress.advance rfl hMem
    exact hNext.prepend length

/- Attempts follow one another while they get stuck. -/
theorem tryLengths_tracked
    {attempt : Nat → Progress → Outcome × Progress}
    {onward : Nat → Progress → List Walk}
    {index : Nat}
    (hAttempt :
      ∀ length progress,
        Tracked slots data index progress.failed
          (attempt length progress)
          (onward length progress))
    (shortest count : Nat)
    (progress : Progress) :
    Tracked slots data index progress.failed
      (tryLengths attempt shortest count progress)
      (tally attempt onward shortest count progress).2 := by
  induction count generalizing progress with
  | zero => exact Tracked.idle index progress .stuck
  | succ count ih =>
      have hFirst := hAttempt (shortest + count) progress
      rw [tryLengths, tally]
      rcases hEnds : attempt (shortest + count) progress
        with ⟨outcome, later⟩
      rw [hEnds] at hFirst
      cases outcome with
      | stuck => exact hFirst.append (ih later)
      | found lengths => exact hFirst
      | exhausted => exact hFirst

/-
  An exploration of a place that is not remembered walks no
  remembered place, and walks what it remembers.
-/
theorem explore_tracked
    (budget : Option Int)
    {later : List Slot}
    {place : Place}
    (hDrop : slots.drop place.index = later)
    {progress : Progress}
    (hNew : place ∉ progress.failed) :
    Tracked slots data place.index progress.failed
      (explore data budget later place progress)
      (exploreWalks data budget later place progress) := by
  induction later generalizing place progress with
  | nil =>
      rw [explore_nil]
      split <;>
        exact Tracked.idle place.index progress _
  | cons slot later ih =>
      have hSlot := getElem?_of_drop_eq_cons hDrop
      cases hCandidates :
          slot.candidates data place.offset with
      | none =>
          have hWidth : widthAt slots data place = 0 := by
            rw [widthAt_eq hSlot, Slot.width, hCandidates]
            rfl
          rw [explore_cons_of_none hCandidates,
            exploreWalks_cons_of_none hCandidates]
          refine ⟨?_, List.nodup_nil, ?_, ?_, ?_, ?_⟩
          · intro p hp
            exact Memo.mem_insert.mpr (Or.inr hp)
          · simp
          · simp
          · simp
          · intro p hp hOther
            rcases Memo.mem_insert.mp hp with rfl | hOld
            · exact Or.inl hWidth
            · exact absurd hOld hOther
      | some range =>
          have hWidth :
              widthAt slots data place = range.count := by
            rw [widthAt_eq hSlot, Slot.width, hCandidates]
            rfl
          rw [explore_cons_of_some hCandidates,
            exploreWalks_cons_of_some hCandidates]
          apply Tracked.settle hNew
          · apply tryLengths_tracked
            apply attempt_tracked
            intro next progress hNext hNextNew
            apply ih _ hNextNew
            rw [hNext]
            exact drop_succ_of_drop_eq_cons hDrop
          · rw [hWidth]
            exact tally_le_count _ _ _ _ _
          · intro hStuck
            rw [hWidth]
            exact tally_eq_count_of_stuck _ hStuck

/-
  No place is walked twice, not even if the first one was
  remembered: all others are at later slots.
-/
theorem exploreWalks_distinct
    (budget : Option Int)
    {later : List Slot}
    {place : Place}
    (hDrop : slots.drop place.index = later)
    (progress : Progress) :
    ((exploreWalks data budget later place progress).map
      Walk.place).Nodup := by
  cases later with
  | nil => exact List.nodup_nil
  | cons slot later =>
      cases hCandidates :
          slot.candidates data place.offset with
      | none =>
          rw [exploreWalks_cons_of_none hCandidates]
          exact List.nodup_nil
      | some range =>
          have hExplore :
              ∀ next progress,
                next.index = place.index + 1 →
                next ∉ progress.failed →
                  Tracked slots data next.index
                    progress.failed
                    (explore data budget later next progress)
                    (exploreWalks data budget later next
                      progress) := by
            intro next progress hNext hNew
            apply explore_tracked budget _ hNew
            rw [hNext]
            exact drop_succ_of_drop_eq_cons hDrop
          have hLater := tryLengths_tracked
            (attempt_tracked budget slot hExplore)
            range.shortest range.count progress
          rw [exploreWalks_cons_of_some hCandidates,
            List.map_cons, List.nodup_cons]
          refine ⟨?_, hLater.distinct⟩
          intro hMem
          rcases List.mem_map.mp hMem with
            ⟨walk, hWalk, hSame⟩
          have hIndex := (hLater.fresh walk hWalk).1
          rw [hSame] at hIndex
          exact Nat.not_succ_le_self place.index hIndex

end Search

end TextTemplate

------------------------------------------------------------
-- Walks of a Run
------------------------------------------------------------

namespace TextTemplate

namespace Search

/- The walks of a run. -/
def walks
    (search : Search) : List Walk :=
  exploreWalks search.data search.budget search.slots ⟨0, 0⟩
    search.progress

/- Every step of a run is a candidate of one of its walks. -/
theorem run_steps_eq
    (search : Search) :
    search.run.2.steps =
      search.steps + Walk.total search.walks :=
  explore_steps_eq search.data search.budget search.slots
    ⟨0, 0⟩ search.progress

/-
  No place is walked twice in a run, whatever was remembered
  before.
-/
theorem walks_distinct
    (search : Search) :
    (search.walks.map Walk.place).Nodup :=
  exploreWalks_distinct search.budget
    (List.drop_zero (l := search.slots)) search.progress

end Search

end TextTemplate
