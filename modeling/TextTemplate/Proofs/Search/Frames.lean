import TextTemplate.Proofs.Search.Exploration
import TextTemplate.Search.Frames

/-
  The search with a stack does what the exploration does.

  The frame of a place is worked off while those below it
  stay as they are, and this comes to the exploration of the
  place with the candidates that are left.  A place behind
  the last slot is never remembered, so it does not matter
  that such a place is not looked up.

  Main declarations:
    * `Leads`
    * `Leads.unique`
    * `Search.explore_bounded`
    * `Frame.result`
    * `Frame.workedOff`
    * `Search.launch_leads_iff`
-/

------------------------------------------------------------
-- Stages in Succession
------------------------------------------------------------

namespace TextTemplate

/- Whether a search comes from one stage to another. -/
inductive Leads
    (data : ByteArray)
    (budget : Option Int) : Stage → Stage → Prop where
  | refl
      (stage : Stage) :
      Leads data budget stage stage
  | step
      {machine : Machine}
      {stage : Stage}
      (hLater :
        Leads data budget (machine.step data budget) stage) :
      Leads data budget (.running machine) stage

namespace Leads

variable {data : ByteArray}
variable {budget : Option Int}

theorem trans
    {first middle last : Stage}
    (hFirst : Leads data budget first middle)
    (hLast : Leads data budget middle last) :
    Leads data budget first last := by
  induction hFirst with
  | refl _ => exact hLast
  | step _ ih => exact .step (ih hLast)

/- A search has one end at most. -/
theorem unique
    {stage : Stage}
    {outcome outcome' : Outcome}
    {progress progress' : Progress}
    (hEnd :
      Leads data budget stage (.ended outcome progress))
    (hEnd' :
      Leads data budget stage (.ended outcome' progress')) :
    outcome = outcome' ∧ progress = progress' := by
  generalize hLast : Stage.ended outcome progress = last
    at hEnd
  induction hEnd with
  | refl _ =>
      subst hLast
      cases hEnd'
      exact ⟨rfl, rfl⟩
  | step _ ih =>
      cases hEnd' with
      | step hLater => exact ih hLater hLast

end Leads

end TextTemplate

------------------------------------------------------------
-- Bounded Memos
------------------------------------------------------------

namespace TextTemplate

namespace Search

/- Whether all remembered places are those of slots. -/
def Bounded
    (count : Nat)
    (progress : Progress) : Prop :=
  ∀ place ∈ progress.failed, place.index < count

theorem bounded_start
    (count : Nat) :
    Bounded count .start := by
  intro place hMem
  exact absurd hMem (Memo.not_mem_empty place)

theorem Bounded.fail
    {count : Nat}
    {progress : Progress}
    (hBounded : Bounded count progress)
    {place : Place}
    (hPlace : place.index < count) :
    Bounded count (progress.fail place) := by
  intro other hOther
  rcases Memo.mem_insert.mp hOther with rfl | hMem
  · exact hPlace
  · exact hBounded other hMem

/- An attempt remembers no more than what comes after it. -/
theorem attempt_bounded
    {count : Nat}
    {data : ByteArray}
    {budget : Option Int}
    {slot : Slot}
    {proceed : Place → Progress → Outcome × Progress}
    {place : Place}
    {length : Nat}
    (hProceed :
      ∀ progress, Bounded count progress →
        Bounded count
          (proceed (place.after length) progress).2)
    {progress : Progress}
    (hBounded : Bounded count progress) :
    Bounded count
      (attempt data budget slot proceed place length
        progress).2 := by
  have hAttempted := attempted data budget slot proceed place
    length progress
  generalize attempt data budget slot proceed place length
    progress = ended at hAttempted
  cases hAttempted with
  | exhausted _ => exact hBounded
  | unfit _ _ => exact hBounded
  | remembered _ _ _ => exact hBounded
  | explored _ _ _ => exact hProceed _ hBounded

/- An exploration remembers places of its slots only. -/
theorem explore_bounded
    {count : Nat}
    (data : ByteArray)
    (budget : Option Int)
    {slots : List Slot}
    {place : Place}
    {progress : Progress}
    (hCount : place.index + slots.length ≤ count)
    (hBounded : Bounded count progress) :
    Bounded count
      (explore data budget slots place progress).2 := by
  induction slots generalizing place progress with
  | nil =>
      rw [explore_nil]
      split <;> exact hBounded
  | cons slot later ih =>
      rw [List.length_cons] at hCount
      have hPlace : place.index < count := by
        omega
      have hNext (length : Nat) :
          (place.after length).index + later.length ≤
            count := by
        change place.index + 1 + later.length ≤ count
        omega
      cases hCandidates :
          slot.candidates data place.offset with
      | none =>
          rw [explore_cons_of_none hCandidates]
          exact hBounded.fail hPlace
      | some range =>
          have hTried :
              Bounded count
                (tryLengths
                  (attempt data budget slot
                    (explore data budget later) place)
                  range.shortest range.count progress).2 :=
            tryLengths_keeps (Bounded count)
              (fun length _ _ _ hProgress =>
                attempt_bounded
                  (fun _ hAfter => ih (hNext length) hAfter)
                  hProgress)
              hBounded
          rw [explore_cons_of_some hCandidates]
          revert hTried
          generalize tryLengths _ _ _ _ = ended
          rcases ended with ⟨outcome, progress⟩
          intro hTried
          cases outcome with
          | stuck => exact hTried.fail hPlace
          | found lengths => exact hTried
          | exhausted => exact hTried

end Search

end TextTemplate

------------------------------------------------------------
-- Steps of a Machine
------------------------------------------------------------

namespace TextTemplate

namespace Machine

variable {data : ByteArray}
variable {budget : Option Int}
variable {frame : Frame}
variable {below : List Frame}
variable {progress : Progress}
variable {slot : Slot}
variable {later : List Slot}

/- A frame without candidates is taken off. -/
theorem step_of_done
    (hLeft : frame.left = 0) :
    step data budget ⟨frame :: below, progress⟩ =
      .running ⟨below, progress.fail frame.place⟩ :=
  if_pos hLeft

/- A search out of budget ends. -/
theorem step_of_exceeds
    (hLeft : frame.left ≠ 0)
    (hExceeds : progress.advance.exceeds budget = true) :
    step data budget ⟨frame :: below, progress⟩ =
      .ended .exhausted progress.advance := by
  simp only [step, hLeft, hExceeds, if_false, if_true]

/- A candidate that does not fit is given up. -/
theorem step_of_unfit
    (hLeft : frame.left ≠ 0)
    (hExceeds : progress.advance.exceeds budget = false)
    (hFits :
      frame.slot.piece.fits data frame.place.offset
        frame.next = false) :
    step data budget ⟨frame :: below, progress⟩ =
      .running ⟨frame.drop :: below, progress.advance⟩ := by
  simp only [step, hLeft, hExceeds, hFits,
    Bool.false_eq_true, if_false]

/- A candidate that fits is entered. -/
theorem step_of_fits
    (hLeft : frame.left ≠ 0)
    (hExceeds : progress.advance.exceeds budget = false)
    (hFits :
      frame.slot.piece.fits data frame.place.offset
        frame.next = true) :
    step data budget ⟨frame :: below, progress⟩ =
      enter data frame below progress.advance := by
  simp only [step, hLeft, hExceeds, hFits,
    Bool.false_eq_true, if_false, if_true]

/- Behind the last slot the input has to be used up. -/
theorem enter_of_last
    (hLater : frame.later = []) :
    enter data frame below progress =
      if frame.target.offset = data.size then
        .ended
          (.found (Frame.chosenBy below ++ [frame.next]))
          progress
      else
        .running ⟨frame.drop :: below, progress⟩ := by
  rw [enter, hLater]

/- A place that is remembered is not entered. -/
theorem enter_of_contains
    (hLater : frame.later = slot :: later)
    (hContains :
      progress.failed.contains frame.target = true) :
    enter data frame below progress =
      .running ⟨frame.drop :: below, progress⟩ := by
  rw [enter, hLater]
  exact if_pos hContains

/- A place without candidates is remembered. -/
theorem enter_of_none
    (hLater : frame.later = slot :: later)
    (hContains :
      progress.failed.contains frame.target = false)
    (hNone :
      slot.candidates data frame.target.offset = none) :
    enter data frame below progress =
      .running ⟨frame.drop :: below,
        progress.fail frame.target⟩ := by
  rw [enter, hLater]
  simp only [hContains, hNone, Bool.false_eq_true, if_false]

/- A place with candidates gets a frame. -/
theorem enter_of_some
    {range : LengthRange}
    (hLater : frame.later = slot :: later)
    (hContains :
      progress.failed.contains frame.target = false)
    (hSome :
      slot.candidates data frame.target.offset =
        some range) :
    enter data frame below progress =
      .running
        ⟨.start slot later frame.target range ::
          { frame.drop with chosen := frame.next } :: below,
          progress⟩ := by
  rw [enter, hLater]
  simp only [hContains, hSome, Bool.false_eq_true, if_false]

end Machine

end TextTemplate

------------------------------------------------------------
-- Results of Frames
------------------------------------------------------------

namespace TextTemplate

/-
  The stage after the topmost frame was worked off with a
  certain result.
-/
def Stage.resume
    (below : List Frame)
    (ended : Outcome × Progress) : Stage :=
  match ended.1 with
  | .stuck => .running ⟨below, ended.2⟩
  | .found lengths =>
      .ended (.found (Frame.chosenBy below ++ lengths))
        ended.2
  | .exhausted => .ended .exhausted ended.2

namespace Frame

open Search

/-
  The stage after a candidate of the topmost frame was tried
  with a certain result.
-/
def proceed
    (frame : Frame)
    (below : List Frame)
    (ended : Outcome × Progress) : Stage :=
  match ended.1 with
  | .stuck => .running ⟨frame :: below, ended.2⟩
  | _ => .resume below ended

/- What comes of the candidates of a frame that are left. -/
def result
    (data : ByteArray)
    (budget : Option Int)
    (frame : Frame)
    (progress : Progress) : Outcome × Progress :=
  settle frame.place
    (tryLengths
      (attempt data budget frame.slot
        (explore data budget frame.later) frame.place)
      frame.shortest frame.left progress)

/-
  What comes of a frame after a candidate was tried with a
  certain result.
-/
def carryOn
    (data : ByteArray)
    (budget : Option Int)
    (frame : Frame)
    (ended : Outcome × Progress) : Outcome × Progress :=
  match ended.1 with
  | .stuck => frame.result data budget ended.2
  | _ => ended

/-
  What comes of a candidate that fits: nothing if the next
  place is remembered, and else what is found from there.
-/
def visit
    (data : ByteArray)
    (budget : Option Int)
    (frame : Frame)
    (progress : Progress) : Outcome × Progress :=
  if progress.failed.contains frame.target then
    (.stuck, progress)
  else
    let ended :=
      explore data budget frame.later frame.target progress
    (ended.1.prepend frame.next, ended.2)

variable {data : ByteArray}
variable {budget : Option Int}
variable {count : Nat}
variable {frame : Frame}
variable {below : List Frame}
variable {progress : Progress}

/- Lengths found above a frame follow the one it has chosen. -/
theorem resume_cons
    (upper : Frame)
    (below : List Frame)
    (ended : Outcome × Progress) :
    Stage.resume (upper :: below) ended =
      upper.proceed below
        (ended.1.prepend upper.chosen, ended.2) := by
  rcases ended with ⟨lengths | _ | _, progress⟩
  · have hChosen :
        chosenBy (upper :: below) ++ lengths =
          chosenBy below ++ upper.chosen :: lengths := by
      simp [chosenBy]
    exact congrArg
      (fun chosen => Stage.ended (.found chosen) progress)
      hChosen
  · rfl
  · rfl

theorem result_of_done
    (hLeft : frame.left = 0) :
    frame.result data budget progress =
      (.stuck, progress.fail frame.place) := by
  rw [result, hLeft]
  rfl

/- The next candidate is attempted, and then the others. -/
theorem result_of_next
    (hLeft : frame.left ≠ 0) :
    frame.result data budget progress =
      frame.drop.carryOn data budget
        (attempt data budget frame.slot
          (explore data budget frame.later) frame.place
          frame.next progress) := by
  rcases frame with
    ⟨slot, later, place, shortest, left, chosen⟩
  cases left with
  | zero => exact absurd rfl hLeft
  | succ left =>
      have hTried (ended : Outcome × Progress)
          (hEnded :
            attempt data budget slot
                (explore data budget later) place
                (shortest + left) progress =
              ended) :
          result data budget
              ⟨slot, later, place, shortest, left + 1,
                chosen⟩
              progress =
            carryOn data budget
              ⟨slot, later, place, shortest, left, chosen⟩
              ended := by
        rw [result, tryLengths, hEnded]
        rcases ended with ⟨_ | _ | _, ended⟩ <;> rfl
      exact hTried _ rfl

/- An attempt out of budget tries nothing. -/
theorem attempt_of_exceeds
    (hExceeds : progress.advance.exceeds budget = true) :
    attempt data budget frame.slot
        (explore data budget frame.later) frame.place
        frame.next progress =
      (.exhausted, progress.advance) :=
  if_pos hExceeds

/- An attempt at a candidate that does not fit gets stuck. -/
theorem attempt_of_unfit
    (hExceeds : progress.advance.exceeds budget = false)
    (hFits :
      frame.slot.piece.fits data frame.place.offset
        frame.next = false) :
    attempt data budget frame.slot
        (explore data budget frame.later) frame.place
        frame.next progress =
      (.stuck, progress.advance) := by
  simp only [attempt, hExceeds, hFits, Bool.false_eq_true,
    if_false, Bool.not_false, if_true]

/- An attempt at a candidate that fits is a visit. -/
theorem attempt_eq_visit
    (hExceeds : progress.advance.exceeds budget = false)
    (hFits :
      frame.slot.piece.fits data frame.place.offset
        frame.next = true) :
    attempt data budget frame.slot
        (explore data budget frame.later) frame.place
        frame.next progress =
      frame.visit data budget progress.advance := by
  simp only [attempt, hExceeds, hFits, Bool.false_eq_true,
    if_false, Bool.not_true]
  rfl

/- A visit remembers places of slots only. -/
theorem visit_bounded
    (hCount :
      frame.place.index + 1 + frame.later.length = count)
    (hBounded : Bounded count progress) :
    Bounded count
      (frame.visit data budget progress).2 := by
  unfold visit
  split
  · exact hBounded
  · exact explore_bounded data budget (Nat.le_of_eq hCount)
      hBounded

end Frame

/- An exploration is what its frame comes to. -/
theorem Search.explore_eq_result
    {data : ByteArray}
    {slot : Slot}
    {place : Place}
    {range : LengthRange}
    (hSome : slot.candidates data place.offset = some range)
    (budget : Option Int)
    (later : List Slot)
    (progress : Progress) :
    explore data budget (slot :: later) place progress =
      (Frame.start slot later place range).result data budget
        progress :=
  explore_cons_of_some hSome budget later progress

end TextTemplate

------------------------------------------------------------
-- Frames Worked Off
------------------------------------------------------------

namespace TextTemplate

namespace Frame

open Search

/- Whether frames before some slots are worked off. -/
def WorkedOff
    (data : ByteArray)
    (budget : Option Int)
    (count : Nat)
    (later : List Slot) : Prop :=
  ∀ (frame : Frame) (below : List Frame)
    (progress : Progress),
    frame.later = later →
      frame.place.index + 1 + frame.later.length = count →
        Bounded count progress →
          Leads data budget
            (.running ⟨frame :: below, progress⟩)
            (.resume below
              (frame.result data budget progress))

/-
  Whether candidates that fit come to visits in frames before
  some slots.
-/
def Visits
    (data : ByteArray)
    (budget : Option Int)
    (count : Nat)
    (later : List Slot) : Prop :=
  ∀ (frame : Frame) (below : List Frame)
    (progress : Progress),
    frame.later = later →
      frame.place.index + 1 + frame.later.length = count →
        Bounded count progress →
          ∃ chosen,
            Leads data budget
              (Machine.enter data frame below progress)
              (proceed { frame.drop with chosen := chosen }
                below (frame.visit data budget progress))

variable {data : ByteArray}
variable {budget : Option Int}
variable {count : Nat}
variable {later : List Slot}

/-
  Frames are worked off, one candidate after another, if each
  candidate that fits comes to a visit.
-/
theorem workedOff_of_visits
    (hVisits : Visits data budget count later) :
    WorkedOff data budget count later := by
  intro frame below progress hLater hCount hBounded
  induction hLeft : frame.left
      generalizing frame progress with
  | zero =>
      refine .step ?_
      rw [result_of_done hLeft, Machine.step_of_done hLeft]
      exact .refl _
  | succ left ih =>
      have hSome : frame.left ≠ 0 := by omega
      have hDrop : frame.left - 1 = left := by omega
      have hAdvance : Bounded count progress.advance :=
        hBounded
      refine .step ?_
      rw [result_of_next hSome]
      cases hExceeds : progress.advance.exceeds budget with
      | true =>
          rw [Machine.step_of_exceeds hSome hExceeds,
            attempt_of_exceeds hExceeds]
          exact .refl _
      | false =>
          cases hFits :
              frame.slot.piece.fits data frame.place.offset
                frame.next with
          | false =>
              rw [Machine.step_of_unfit hSome hExceeds hFits,
                attempt_of_unfit hExceeds hFits]
              exact ih frame.drop _ hLater hCount hAdvance
                hDrop
          | true =>
              rcases hVisits frame below _ hLater hCount
                  hAdvance with
                ⟨chosen, hEnter⟩
              have hVisit :
                  Bounded count
                    (frame.visit data budget
                      progress.advance).2 :=
                visit_bounded hCount hAdvance
              rw [Machine.step_of_fits hSome hExceeds hFits,
                attempt_eq_visit hExceeds hFits]
              refine hEnter.trans ?_
              generalize frame.visit data budget
                progress.advance = ended at hVisit ⊢
              rcases ended with ⟨_ | _ | _, ended⟩
              · exact .refl _
              · exact
                  ih { frame.drop with chosen := chosen } _
                    hLater hCount hVisit hDrop
              · exact .refl _

/-
  Behind the last slot no place is remembered, so a visit
  there tells whether the input is used up.
-/
theorem visits_nil :
    Visits data budget count [] := by
  intro frame below progress hLater hCount hBounded
  have hNew :
      progress.failed.contains frame.target = false := by
    rw [← Bool.not_eq_true]
    intro hMem
    have hIndex : frame.place.index + 1 < count :=
      hBounded _ hMem
    rw [hLater, List.length_nil] at hCount
    omega
  refine ⟨frame.chosen, ?_⟩
  rw [Machine.enter_of_last hLater, visit, hNew, hLater,
    explore_nil]
  simp only [Bool.false_eq_true, if_false]
  split <;> exact .refl _

/-
  A visit at a slot is what its frame comes to, and that
  frame is put on top of this one.
-/
theorem visits_cons
    {slot : Slot}
    (hLaterFrames : WorkedOff data budget count later) :
    Visits data budget count (slot :: later) := by
  intro frame below progress hLater hCount hBounded
  rw [visit, hLater]
  cases hContains :
      progress.failed.contains frame.target with
  | true =>
      rw [Machine.enter_of_contains hLater hContains]
      exact ⟨frame.chosen, .refl _⟩
  | false =>
      cases hCandidates :
          slot.candidates data frame.target.offset with
      | none =>
          rw [Machine.enter_of_none hLater hContains
              hCandidates,
            explore_cons_of_none hCandidates]
          exact ⟨frame.chosen, .refl _⟩
      | some range =>
          let above : Frame :=
            .start slot later frame.target range
          have hIndex :
              above.place.index + 1 + above.later.length =
                count := by
            rw [hLater, List.length_cons] at hCount
            change frame.place.index + 1 + 1 + later.length =
              count
            omega
          have hAbove :=
            hLaterFrames above
              ({ frame.drop with chosen := frame.next } ::
                below)
              progress rfl hIndex hBounded
          rw [resume_cons] at hAbove
          rw [Machine.enter_of_some hLater hContains
              hCandidates,
            explore_eq_result hCandidates]
          exact ⟨frame.next, hAbove⟩

/-
  All frames are worked off.  The induction is on the later
  slots.
-/
theorem workedOff
    (data : ByteArray)
    (budget : Option Int)
    (count : Nat)
    (later : List Slot) :
    WorkedOff data budget count later := by
  induction later with
  | nil => exact workedOff_of_visits visits_nil
  | cons slot later ih =>
      exact workedOff_of_visits (visits_cons ih)

end Frame

end TextTemplate

------------------------------------------------------------
-- Searches
------------------------------------------------------------

namespace TextTemplate

namespace Search

/-
  The search with a stack ends as a run does, with the same
  places remembered after the same steps.
-/
theorem launch_leads
    (search : Search)
    (hBounded :
      Bounded search.slots.length search.progress) :
    Leads search.data search.budget search.launch
      (.ended search.run.1 search.run.2.progress) := by
  rcases search with ⟨slots, data, budget, progress⟩
  cases slots with
  | nil =>
      simp only [launch, run, explore_nil, eq_comm]
      split <;> exact .refl _
  | cons slot later =>
      cases hCandidates : slot.candidates data 0 with
      | none =>
          have hExplore :
              explore data budget (slot :: later) ⟨0, 0⟩
                  progress =
                (.stuck, progress.fail ⟨0, 0⟩) :=
            explore_cons_of_none hCandidates budget later
              progress
          simp only [launch, run, hCandidates, hExplore]
          exact .refl _
      | some range =>
          let bottom : Frame :=
            .start slot later ⟨0, 0⟩ range
          have hSome :
              slot.candidates data (⟨0, 0⟩ : Place).offset =
                some range :=
            hCandidates
          have hExplore :
              explore data budget (slot :: later) ⟨0, 0⟩
                  progress =
                bottom.result data budget progress :=
            explore_eq_result hSome budget later progress
          have hBottom :=
            Frame.workedOff data budget (later.length + 1)
              later bottom [] progress rfl
              (Nat.add_comm 1 later.length) hBounded
          simp only [launch, run, hCandidates, hExplore]
          refine hBottom.trans ?_
          rcases bottom.result data budget progress with
            ⟨_ | _ | _, ended⟩
          · exact .refl _
          · exact .step (.refl _)
          · exact .refl _

/- The search with a stack ends in no other way. -/
theorem launch_leads_iff
    {search : Search}
    (hBounded :
      Bounded search.slots.length search.progress)
    (outcome : Outcome)
    (progress : Progress) :
    Leads search.data search.budget search.launch
        (.ended outcome progress) ↔
      outcome = search.run.1 ∧
        progress = search.run.2.progress := by
  have hLeads := launch_leads search hBounded
  constructor
  · intro hEnd
    exact hEnd.unique hLeads
  · rintro ⟨rfl, rfl⟩
    exact hLeads

end Search

end TextTemplate
