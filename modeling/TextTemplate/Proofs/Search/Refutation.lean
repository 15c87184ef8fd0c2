import TextTemplate.Proofs.Search.Decomposition
import TextTemplate.Proofs.Search.Exploration

/-
  What the memo of a search stands for.

  A memo is closed when each remembered place leads only to
  places that are refuted as well, by the memo or because
  all slots are used and input is left.  No remembered place
  of a closed memo can be completed.  Explorations keep the
  memo closed, whatever the budget and wherever they stop,
  and what they find is the first choice among all ways to
  complete a place.

  Main declarations:
    * `Search.Viable`
    * `Search.Completes`
    * `Search.Closed`
    * `Search.FirstChoice`
    * `Search.Justified`
    * `Search.explore_justified`
-/

------------------------------------------------------------
-- Ways Through the Slots
------------------------------------------------------------

namespace TextTemplate

/- A range ends where its count does. -/
theorem LengthRange.lt_shortest_add_count
    (range : LengthRange)
    {length : Nat} :
    length < range.shortest + range.count ↔
      length ≤ range.longest := by
  have hOrdered := range.ordered
  rw [count]
  omega

namespace Slot

/- Whether a length is a candidate for a slot. -/
def Offers
    (slot : Slot)
    (data : ByteArray)
    (offset length : Nat) : Prop :=
  ∃ range, slot.candidates data offset = some range ∧
    length ∈ range

/- A slot without candidates offers nothing. -/
theorem not_offers_of_none
    {slot : Slot}
    {data : ByteArray}
    {offset : Nat}
    (hNone : slot.candidates data offset = none)
    (length : Nat) :
    ¬ slot.Offers data offset length := by
  rintro ⟨range, hRange, _⟩
  rw [hNone] at hRange
  exact nomatch hRange

/- A slot offers the lengths of its range. -/
theorem offers_iff_of_some
    {slot : Slot}
    {data : ByteArray}
    {offset : Nat}
    {range : LengthRange}
    (hSome : slot.candidates data offset = some range)
    {length : Nat} :
    slot.Offers data offset length ↔ length ∈ range := by
  constructor
  · rintro ⟨other, hOther, hMem⟩
    rw [hSome, Option.some_inj] at hOther
    subst hOther
    exact hMem
  · intro hMem
    exact ⟨range, hSome, hMem⟩

end Slot

namespace Search

/- Whether a length is a fitting candidate at a place. -/
def Viable
    (slots : List Slot)
    (data : ByteArray)
    (place : Place)
    (length : Nat) : Prop :=
  ∃ slot, slots[place.index]? = some slot ∧
    slot.Offers data place.offset length ∧
    slot.piece.fits data place.offset length = true

/- Only a slot has fitting candidates. -/
theorem Viable.index_lt
    {slots : List Slot}
    {data : ByteArray}
    {place : Place}
    {length : Nat}
    (hViable : Viable slots data place length) :
    place.index < slots.length := by
  obtain ⟨slot, hSlot, _, _⟩ := hViable
  exact (List.getElem?_eq_some_iff.mp hSlot).1

/- The slot at a place decides what is viable. -/
theorem viable_iff
    {slots : List Slot}
    {data : ByteArray}
    {place : Place}
    {slot : Slot}
    (hSlot : slots[place.index]? = some slot)
    {length : Nat} :
    Viable slots data place length ↔
      slot.Offers data place.offset length ∧
        slot.piece.fits data place.offset length = true := by
  constructor
  · rintro ⟨other, hOther, hOffers, hFits⟩
    rw [hSlot, Option.some_inj] at hOther
    subst hOther
    exact ⟨hOffers, hFits⟩
  · rintro ⟨hOffers, hFits⟩
    exact ⟨slot, hSlot, hOffers, hFits⟩

/-
  Fitting candidates, one for each slot from a place on, that
  use up the input.
-/
inductive Completes
    (slots : List Slot)
    (data : ByteArray) : Place → List Nat → Prop where
  | goal
      {place : Place}
      (hIndex : place.index = slots.length)
      (hOffset : place.offset = data.size) :
      Completes slots data place []
  | step
      {place : Place}
      {length : Nat}
      {lengths : List Nat}
      (hViable : Viable slots data place length)
      (hRest :
        Completes slots data (place.after length) lengths) :
      Completes slots data place (length :: lengths)

theorem getElem?_of_drop_eq_cons
    {α : Type}
    {items later : List α}
    {index : Nat}
    {item : α}
    (hDrop : items.drop index = item :: later) :
    items[index]? = some item := by
  have hHead := congrArg (fun list => list[0]?) hDrop
  simpa using hHead

theorem index_lt_of_drop_eq_cons
    {α : Type}
    {items later : List α}
    {index : Nat}
    {item : α}
    (hDrop : items.drop index = item :: later) :
    index < items.length := by
  have hSome := getElem?_of_drop_eq_cons hDrop
  exact (List.getElem?_eq_some_iff.mp hSome).1

theorem drop_succ_of_drop_eq_cons
    {α : Type}
    {items later : List α}
    {index : Nat}
    {item : α}
    (hDrop : items.drop index = item :: later) :
    items.drop (index + 1) = later := by
  rw [← List.tail_drop, hDrop]
  rfl

end Search

end TextTemplate

------------------------------------------------------------
-- Closed Memos
------------------------------------------------------------

namespace TextTemplate

namespace Search

variable {slots : List Slot}
variable {data : ByteArray}

/-
  A place is refuted when it is remembered, or when all slots
  are used and the input is not.
-/
def Refuted
    (slots : List Slot)
    (data : ByteArray)
    (memo : Memo)
    (place : Place) : Prop :=
  place ∈ memo ∨
    (place.index = slots.length ∧ place.offset ≠ data.size)

/-
  Remembered places have slots and lead to refuted places
  only.
-/
def Closed
    (slots : List Slot)
    (data : ByteArray)
    (memo : Memo) : Prop :=
  ∀ place ∈ memo, place.index < slots.length ∧
    ∀ length, Viable slots data place length →
      Refuted slots data memo (place.after length)

/- The empty memo is closed. -/
theorem closed_empty :
    Closed slots data .empty := by
  intro place hMem
  exact absurd hMem (Memo.not_mem_empty place)

/- A larger memo refutes more. -/
theorem Refuted.mono
    {memo larger : Memo}
    (hSubset : ∀ place ∈ memo, place ∈ larger)
    {place : Place}
    (hRefuted : Refuted slots data memo place) :
    Refuted slots data larger place := by
  rcases hRefuted with hMem | hEnd
  · exact Or.inl (hSubset place hMem)
  · exact Or.inr hEnd

/- A place that leads nowhere may be remembered. -/
theorem Closed.insert
    {memo : Memo}
    (hClosed : Closed slots data memo)
    {place : Place}
    (hIndex : place.index < slots.length)
    (hNext :
      ∀ length, Viable slots data place length →
        Refuted slots data memo (place.after length)) :
    Closed slots data (memo.insert place) := by
  have hSubset : ∀ p ∈ memo, p ∈ memo.insert place := by
    intro p hp
    exact Memo.mem_insert.mpr (Or.inr hp)
  intro p hp
  rcases Memo.mem_insert.mp hp with rfl | hp
  · exact ⟨hIndex, fun length hViable =>
      (hNext length hViable).mono hSubset⟩
  · obtain ⟨hLess, hLeads⟩ := hClosed p hp
    exact ⟨hLess, fun length hViable =>
      (hLeads length hViable).mono hSubset⟩

/- A refuted place cannot be completed. -/
theorem not_completes_of_refuted
    {memo : Memo}
    (hClosed : Closed slots data memo)
    {place : Place}
    (hRefuted : Refuted slots data memo place)
    {lengths : List Nat} :
    ¬ Completes slots data place lengths := by
  intro hCompletes
  induction hCompletes with
  | goal hIndex hOffset =>
      rcases hRefuted with hMem | hEnd
      · have hLess := (hClosed _ hMem).1
        omega
      · exact hEnd.2 hOffset
  | step hViable hRest ih =>
      rcases hRefuted with hMem | hEnd
      · exact ih ((hClosed _ hMem).2 _ hViable)
      · have hLess := hViable.index_lt
        omega

end Search

end TextTemplate

------------------------------------------------------------
-- First Choices
------------------------------------------------------------

namespace TextTemplate

namespace Search

variable {slots : List Slot}
variable {data : ByteArray}

/-
  A completion of a place is the first choice under a memo
  when all longer candidates on its way are refuted.
-/
inductive FirstChoice
    (slots : List Slot)
    (data : ByteArray)
    (memo : Memo) : Place → List Nat → Prop where
  | goal
      {place : Place}
      (hIndex : place.index = slots.length)
      (hOffset : place.offset = data.size) :
      FirstChoice slots data memo place []
  | step
      {place : Place}
      {length : Nat}
      {lengths : List Nat}
      (hViable : Viable slots data place length)
      (hLonger :
        ∀ longer, length < longer →
          Viable slots data place longer →
            Refuted slots data memo (place.after longer))
      (hRest :
        FirstChoice slots data memo (place.after length)
          lengths) :
      FirstChoice slots data memo place (length :: lengths)

/- A first choice completes its place. -/
theorem FirstChoice.completes
    {memo : Memo}
    {place : Place}
    {lengths : List Nat}
    (hFirst : FirstChoice slots data memo place lengths) :
    Completes slots data place lengths := by
  induction hFirst with
  | goal hIndex hOffset => exact .goal hIndex hOffset
  | step hViable _ _ ih => exact .step hViable ih

/- No completion is greater than a first choice. -/
theorem FirstChoice.le
    {memo : Memo}
    (hClosed : Closed slots data memo)
    {place : Place}
    {lengths : List Nat}
    (hFirst : FirstChoice slots data memo place lengths)
    {other : List Nat}
    (hOther : Completes slots data place other) :
    LexLe other lengths := by
  induction hFirst generalizing other with
  | goal hIndex _ =>
      cases hOther with
      | goal _ _ => exact Or.inl rfl
      | step hViable _ =>
          have hLess := hViable.index_lt
          omega
  | @step place length lengths hViable hLonger _ ih =>
      cases hOther with
      | goal hIndex _ =>
          have hLess := hViable.index_lt
          omega
      | @step _ first rest hFirst hRest =>
          rw [lexLe_cons]
          rcases Nat.lt_trichotomy first length with
            hLess | hSame | hGreater
          · exact Or.inl hLess
          · subst hSame
            exact Or.inr ⟨rfl, ih hRest⟩
          · have hRefuted := hLonger first hGreater hFirst
            exact absurd hRest
              (not_completes_of_refuted hClosed hRefuted)

end Search

end TextTemplate

------------------------------------------------------------
-- Explorations
------------------------------------------------------------

namespace TextTemplate

namespace Search

variable {slots : List Slot}
variable {data : ByteArray}

/-
  What an exploration of a place guarantees about its end,
  whatever the budget.
-/
structure Justified
    (slots : List Slot)
    (data : ByteArray)
    (place : Place)
    (progress : Progress)
    (ended : Outcome × Progress) : Prop where
  closed : Closed slots data ended.2.failed
  grows :
    ∀ p ∈ progress.failed, p ∈ ended.2.failed
  refuted :
    ended.1 = .stuck →
      Refuted slots data ended.2.failed place
  first :
    ∀ lengths, ended.1 = .found lengths →
      FirstChoice slots data ended.2.failed place lengths

/-
  What trying the candidates below a bound guarantees, once
  all candidates from the bound on are refuted.
-/
structure JustifiedBelow
    (slots : List Slot)
    (data : ByteArray)
    (place : Place)
    (shortest : Nat)
    (progress : Progress)
    (ended : Outcome × Progress) : Prop where
  closed : Closed slots data ended.2.failed
  grows :
    ∀ p ∈ progress.failed, p ∈ ended.2.failed
  refuted :
    ended.1 = .stuck →
      ∀ length, shortest ≤ length →
        Viable slots data place length →
          Refuted slots data ended.2.failed
            (place.after length)
  first :
    ∀ lengths, ended.1 = .found lengths →
      FirstChoice slots data ended.2.failed place lengths

/-
  One attempt: a refused or remembered candidate is refuted,
  and an explored one is judged by its exploration.
-/
theorem attempt_justified
    {slot : Slot}
    {place : Place}
    (hSlot : slots[place.index]? = some slot)
    {length : Nat}
    (hOffers : slot.Offers data place.offset length)
    {budget : Option Int}
    {proceed : Place → Progress → Outcome × Progress}
    (hProceed :
      ∀ next progress,
        next.index = place.index + 1 →
        Closed slots data progress.failed →
          Justified slots data next progress
            (proceed next progress))
    {progress : Progress}
    (hClosed : Closed slots data progress.failed)
    (hLonger :
      ∀ longer, length < longer →
        Viable slots data place longer →
          Refuted slots data progress.failed
            (place.after longer)) :
    JustifiedBelow slots data place length progress
      (attempt data budget slot proceed place length
        progress) := by
  -- the candidates from `length` on, when none is viable at
  -- `length` or the place after it is refuted
  have hFrom :
      ∀ memo : Memo, (∀ p ∈ progress.failed, p ∈ memo) →
        (Viable slots data place length →
          Refuted slots data memo (place.after length)) →
        ∀ longer, length ≤ longer →
          Viable slots data place longer →
            Refuted slots data memo
              (place.after longer) := by
    intro memo hGrows hHere longer hLe hViable
    rcases Nat.eq_or_lt_of_le hLe with rfl | hLess
    · exact hHere hViable
    · exact (hLonger longer hLess hViable).mono hGrows
  have hResult := attempted data budget slot proceed place
    length progress
  revert hResult
  generalize attempt data budget slot proceed place length
    progress = ended
  intro hResult
  cases hResult with
  | exhausted _ =>
      exact
        ⟨hClosed, fun _ h => h, (nomatch ·), fun _ =>
          (nomatch ·)⟩
  | unfit _ hFits =>
      refine
        ⟨hClosed, fun _ h => h, fun _ => ?_, fun _ =>
          (nomatch ·)⟩
      apply hFrom progress.failed (fun _ h => h)
      intro hViable
      have hViableFits := ((viable_iff hSlot).mp hViable).2
      rw [hFits] at hViableFits
      exact nomatch hViableFits
  | remembered _ _ hMem =>
      exact
        ⟨hClosed, fun _ h => h,
          fun _ => hFrom progress.failed (fun _ h => h)
            (fun _ => Or.inl hMem), fun _ => (nomatch ·)⟩
  | explored _ hFits _ =>
      have hNext := hProceed (place.after length)
        progress.advance rfl hClosed
      refine ⟨hNext.closed, hNext.grows, ?_, ?_⟩
      · intro hStuck
        apply hFrom _ hNext.grows
        intro _
        apply hNext.refuted
        exact Outcome.prepend_eq_stuck_iff.mp hStuck
      · intro lengths hFound
        rcases Outcome.prepend_eq_found_iff.mp hFound with
          ⟨rest, hOutcome, hLengths⟩
        subst hLengths
        have hViable : Viable slots data place length :=
          (viable_iff hSlot).mpr ⟨hOffers, hFits⟩
        refine .step hViable ?_ (hNext.first rest hOutcome)
        intro longer hLess hLongerViable
        exact (hLonger longer hLess hLongerViable).mono
          hNext.grows

/-
  All attempts: the candidates are refuted one after another
  until one of them is found or the budget ends.
-/
theorem tryLengths_justified
    {slot : Slot}
    {place : Place}
    (hSlot : slots[place.index]? = some slot)
    {budget : Option Int}
    {proceed : Place → Progress → Outcome × Progress}
    (hProceed :
      ∀ next progress,
        next.index = place.index + 1 →
        Closed slots data progress.failed →
          Justified slots data next progress
            (proceed next progress))
    {shortest count : Nat}
    (hOffers :
      ∀ length, shortest ≤ length →
        length < shortest + count →
          slot.Offers data place.offset length)
    {progress : Progress}
    (hClosed : Closed slots data progress.failed)
    (hLonger :
      ∀ longer, shortest + count ≤ longer →
        Viable slots data place longer →
          Refuted slots data progress.failed
            (place.after longer)) :
    JustifiedBelow slots data place shortest progress
      (tryLengths
        (attempt data budget slot proceed place) shortest
        count progress) := by
  induction count generalizing progress with
  | zero =>
      exact
        ⟨hClosed, fun _ h => h, fun _ => hLonger, fun _ =>
          (nomatch ·)⟩
  | succ count ih =>
      have hAttempt : JustifiedBelow slots data place
          (shortest + count) progress
          (attempt data budget slot proceed place
            (shortest + count) progress) :=
        attempt_justified hSlot
          (hOffers (shortest + count) (by omega) (by omega))
          hProceed hClosed hLonger
      rw [tryLengths]
      split
      · rename_i hStuck
        rw [hStuck] at hAttempt
        have hRest := ih
          (fun length hLower hUpper =>
            hOffers length hLower (by omega))
          hAttempt.closed (hAttempt.refuted rfl)
        exact
          ⟨hRest.closed,
            fun p hp => hRest.grows p (hAttempt.grows p hp),
            hRest.refuted, hRest.first⟩
      · rename_i hNotStuck
        refine
          ⟨hAttempt.closed, hAttempt.grows, fun hStuck => ?_,
            hAttempt.first⟩
        exact (hNotStuck _ (Prod.ext hStuck rfl)).elim

/- A place is remembered when no candidate is left. -/
theorem settle_justified
    {place : Place}
    (hIndex : place.index < slots.length)
    {shortest : Nat}
    (hShortest :
      ∀ length, Viable slots data place length →
        shortest ≤ length)
    {progress : Progress}
    {tried : Outcome × Progress}
    (hTried :
      JustifiedBelow slots data place shortest progress
        tried) :
    Justified slots data place progress
      (settle place tried) := by
  obtain ⟨outcome, ended⟩ := tried
  cases outcome with
  | stuck =>
      refine
        ⟨hTried.closed.insert hIndex ?_, ?_, ?_, fun _ =>
          (nomatch ·)⟩
      · intro length hViable
        exact hTried.refuted rfl length
          (hShortest length hViable) hViable
      · intro p hp
        exact Memo.mem_insert.mpr
          (Or.inr (hTried.grows p hp))
      · intro _
        exact Or.inl (Memo.mem_insert.mpr (Or.inl rfl))
  | found lengths =>
      exact
        ⟨hTried.closed, hTried.grows, (nomatch ·),
          hTried.first⟩
  | exhausted =>
      exact
        ⟨hTried.closed, hTried.grows, (nomatch ·),
          hTried.first⟩

/- An exploration keeps the memo closed and is justified. -/
theorem explore_justified
    (budget : Option Int)
    {later : List Slot}
    {place : Place}
    (hDrop : slots.drop place.index = later)
    (hIndex : place.index ≤ slots.length)
    {progress : Progress}
    (hClosed : Closed slots data progress.failed) :
    Justified slots data place progress
      (explore data budget later place progress) := by
  induction later generalizing place progress with
  | nil =>
      have hEnd : place.index = slots.length := by
        have hLength := List.drop_eq_nil_iff.mp hDrop
        omega
      rw [explore_nil]
      split
      · rename_i hOffset
        refine
          ⟨hClosed, fun _ h => h, (nomatch ·), ?_⟩
        intro lengths hFound
        obtain rfl : [] = lengths := Outcome.found.inj hFound
        exact .goal hEnd hOffset
      · rename_i hOffset
        exact
          ⟨hClosed, fun _ h => h,
            fun _ => Or.inr ⟨hEnd, hOffset⟩, fun _ =>
              (nomatch ·)⟩
  | cons slot later ih =>
      have hSlot := getElem?_of_drop_eq_cons hDrop
      have hLess := index_lt_of_drop_eq_cons hDrop
      cases hCandidates :
          slot.candidates data place.offset with
      | none =>
          rw [explore_cons_of_none hCandidates]
          have hNone :
              ∀ length, ¬ Viable slots data place length := by
            intro length hViable
            exact Slot.not_offers_of_none hCandidates length
              ((viable_iff hSlot).mp hViable).1
          have hTried : JustifiedBelow slots data place 0
              progress (.stuck, progress) := by
            refine
              ⟨hClosed, fun _ h => h, ?_, fun _ =>
                (nomatch ·)⟩
            intro _ length _ hViable
            exact absurd hViable (hNone length)
          exact settle_justified hLess
            (fun length hViable => Nat.zero_le length) hTried
      | some range =>
          have hOffered :
              ∀ length, Viable slots data place length →
                length ∈ range := by
            intro length hViable
            exact (Slot.offers_iff_of_some hCandidates).mp
              ((viable_iff hSlot).mp hViable).1
          have hTried : JustifiedBelow slots data place
              range.shortest progress
              (tryLengths
                (attempt data budget slot
                  (explore data budget later) place)
                range.shortest range.count progress) := by
            apply tryLengths_justified hSlot _ _ hClosed
            · intro longer hLonger hViable
              have hUpper := range.lt_shortest_add_count.mpr
                (hOffered longer hViable).2
              omega
            · intro next progress hNext hNextClosed
              apply ih _ (by omega) hNextClosed
              rw [hNext]
              exact drop_succ_of_drop_eq_cons hDrop
            · intro length hLower hUpper
              exact ⟨range, hCandidates, hLower,
                range.lt_shortest_add_count.mp hUpper⟩
          rw [explore_cons_of_some hCandidates]
          exact settle_justified hLess
            (fun length hViable => (hOffered length hViable).1)
            hTried

/- The run of a fresh search is justified. -/
theorem start_justified
    (pieces : List Piece)
    (data : ByteArray)
    (budget : Option Int) :
    Justified (Slot.ofPieces pieces) data ⟨0, 0⟩ .start
      ((start pieces data budget).run.1,
        (start pieces data budget).run.2.progress) :=
  explore_justified budget List.drop_zero (Nat.zero_le _)
    closed_empty

end Search

end TextTemplate
