import Mathlib.Data.List.Forall2
import TextTemplate.Proofs.Search.Candidates
import TextTemplate.Proofs.Search.Reuse

/-
  Pieces that are the same to a search.

  Of the lengths of a piece, a search looks at the first and
  the last only, and no lower end is the same to it as one
  at 0.  Of the name it only looks at whether there is one.
  So pieces that are alike in this way are searched with the
  same candidates, outcomes and steps, and the memo is the
  same throughout.

  Main declarations:
    * `Interval.SameLengths`
    * `Piece.Alike`
    * `Slot.Alike`
    * `Slot.Alike.candidates_eq`
    * `Search.explore_alike`
    * `Search.Alike`
    * `Search.Alike.performAll`
    * `Search.alike_pieces_searched_alike`
-/

------------------------------------------------------------
-- Intervals of the Same Lengths
------------------------------------------------------------

namespace TextTemplate

namespace Interval

/-
  Whether two intervals have the same first and the same last
  length, where no lower end is one at 0.
-/
structure SameLengths
    (left right : Interval) : Prop where
  first_eq : left.first.getD 0 = right.first.getD 0
  last_eq : left.last = right.last

/- An end after a number is an end at the next number. -/
theorem sameLengths_after
    (value : Int)
    (high : Option HighBound) :
    SameLengths ⟨some (.after value), high⟩
      ⟨some (.inclusive (value + 1)), high⟩ :=
  ⟨rfl, rfl⟩

/- An end before a number is an end at the one before. -/
theorem sameLengths_before
    (low : Option LowBound)
    (value : Int) :
    SameLengths ⟨low, some (.before value)⟩
      ⟨low, some (.inclusive (value - 1))⟩ :=
  ⟨rfl, rfl⟩

/- No lower end is a lower end at 0. -/
theorem sameLengths_unbound
    (high : Option HighBound) :
    SameLengths ⟨none, high⟩
      ⟨some (.inclusive 0), high⟩ :=
  ⟨rfl, rfl⟩

variable {left right : Interval}

theorem SameLengths.clamped_first_eq
    (hSame : left.SameLengths right)
    (highest : Int) :
    (left.clamped 0 highest).first =
      (right.clamped 0 highest).first := by
  rw [clamped_first, clamped_first, hSame.first_eq]

theorem SameLengths.clamped_last_eq
    (hSame : left.SameLengths right)
    (highest : Int) :
    (left.clamped 0 highest).last =
      (right.clamped 0 highest).last := by
  rw [clamped_last, clamped_last, hSame.last_eq]

end Interval

end TextTemplate

------------------------------------------------------------
-- Pieces That Are Alike
------------------------------------------------------------

namespace TextTemplate

namespace Piece

/- Whether pieces are the same to a search. -/
structure Alike
    (left right : Piece) : Prop where
  isAnonymous_eq : left.isAnonymous = right.isAnonymous
  content_eq : left.content = right.content
  lengths : left.length.SameLengths right.length

variable {left right : Piece}

/- The same segments fit pieces that are alike. -/
theorem Alike.fits_eq
    (hAlike : left.Alike right)
    (data : ByteArray)
    (offset length : Nat) :
    left.fits data offset length =
      right.fits data offset length := by
  unfold fits
  rw [hAlike.isAnonymous_eq, hAlike.content_eq]

/- Lengths are in view for both of them or for neither. -/
theorem Alike.within_iff
    (hAlike : left.Alike right)
    (remaining : Int) :
    left.Within remaining ↔ right.Within remaining := by
  unfold Within leastLength greatestLength
  rw [hAlike.lengths.first_eq, hAlike.lengths.last_eq]

end Piece

/- Pieces that are alike cover the same room. -/
theorem Room.ofPieces_alike
    {left right : List Piece}
    (hAlike : List.Forall₂ Piece.Alike left right) :
    ofPieces left = ofPieces right := by
  induction hAlike with
  | nil => rfl
  | cons hFirst _ ih =>
      change extend _ (ofPieces _) = extend _ (ofPieces _)
      unfold extend
      rw [ih, hFirst.lengths.first_eq,
        hFirst.lengths.last_eq]

namespace Slot

/- Whether slots are the same to a search. -/
structure Alike
    (left right : Slot) : Prop where
  piece : left.piece.Alike right.piece
  later_eq : left.later = right.later

variable {left right : Slot}

/- Slots that are alike have the same candidates. -/
theorem Alike.candidates_eq
    (hAlike : left.Alike right)
    (data : ByteArray)
    (offset : Nat) :
    left.candidates data offset =
      right.candidates data offset := by
  have hPiece := hAlike.piece
  have hWithinIff :=
    hPiece.within_iff ((data.size : Int) - offset)
  by_cases hWithin :
      left.piece.Within ((data.size : Int) - offset)
  · have hFirst := hPiece.lengths.clamped_first_eq
      ((data.size : Int) - offset)
    have hLast := hPiece.lengths.clamped_last_eq
      ((data.size : Int) - offset)
    rw [candidates_of_within hWithin,
      candidates_of_within (hWithinIff.mp hWithin)]
    unfold scanned lowerLimit upperLimit
    rw [hFirst, hLast, hAlike.later_eq, hPiece.content_eq]
  · rw [candidates_of_not_within hWithin,
      candidates_of_not_within (hWithinIff.not.mp hWithin)]

/- Pieces that are alike are put into slots that are. -/
theorem ofPieces_alike
    {left right : List Piece}
    (hAlike : List.Forall₂ Piece.Alike left right) :
    List.Forall₂ Alike (ofPieces left) (ofPieces right) := by
  induction hAlike with
  | nil => exact .nil
  | cons hFirst hLater ih =>
      rw [ofPieces_cons, ofPieces_cons]
      exact .cons ⟨hFirst, Room.ofPieces_alike hLater⟩ ih

end Slot

end TextTemplate

------------------------------------------------------------
-- Searches That Are Alike
------------------------------------------------------------

namespace TextTemplate

namespace Search

/- An attempt looks at what slots that are alike share. -/
theorem attempt_alike
    {left right : Slot}
    (hAlike : left.Alike right)
    (data : ByteArray)
    (budget : Option Int)
    (proceed : Place → Progress → Outcome × Progress)
    (place : Place) :
    attempt data budget left proceed place =
      attempt data budget right proceed place := by
  funext length progress
  unfold attempt
  rw [hAlike.piece.fits_eq]

/-
  Slots that are alike are explored alike, down to the steps
  and the places that are remembered.
-/
theorem explore_alike
    {left right : List Slot}
    (hAlike : List.Forall₂ Slot.Alike left right)
    (data : ByteArray)
    (budget : Option Int)
    (place : Place)
    (progress : Progress) :
    explore data budget left place progress =
      explore data budget right place progress := by
  induction hAlike generalizing place progress with
  | nil => rfl
  | @cons slot slot' later later' hFirst _ ih =>
      have hLater :
          explore data budget later =
            explore data budget later' := by
        funext place progress
        exact ih place progress
      have hSame :=
        hFirst.candidates_eq data place.offset
      cases hRange : slot.candidates data place.offset with
      | none =>
          rw [explore_cons_of_none hRange,
            explore_cons_of_none (hSame ▸ hRange)]
      | some range =>
          rw [explore_cons_of_some hRange,
            explore_cons_of_some (hSame ▸ hRange), hLater,
            attempt_alike hFirst]

/-
  Whether searches are about the same input and slots that
  are alike, and have come equally far.
-/
structure Alike
    (left right : Search) : Prop where
  slots : List.Forall₂ Slot.Alike left.slots right.slots
  data_eq : left.data = right.data
  budget_eq : left.budget = right.budget
  progress_eq : left.progress = right.progress

theorem start_alike
    {left right : List Piece}
    (hAlike : List.Forall₂ Piece.Alike left right)
    (data : ByteArray)
    (budget : Option Int) :
    (start left data budget).Alike
      (start right data budget) :=
  ⟨Slot.ofPieces_alike hAlike, rfl, rfl, rfl⟩

namespace Alike

variable {left right : Search}

theorem steps_eq
    (hAlike : left.Alike right) :
    left.steps = right.steps :=
  congrArg Progress.steps hAlike.progress_eq

theorem candidates_eq
    (hAlike : left.Alike right)
    (index offset : Nat) :
    left.candidates index offset =
      right.candidates index offset := by
  unfold candidates
  rw [hAlike.data_eq]
  have hSlots := hAlike.slots
  generalize left.slots = slots at hSlots
  generalize right.slots = slots' at hSlots
  induction hSlots generalizing index with
  | nil => rfl
  | cons hFirst _ ih =>
      cases index with
      | zero => exact hFirst.candidates_eq right.data offset
      | succ index =>
          rw [List.getElem?_cons_succ,
            List.getElem?_cons_succ]
          exact ih index

/- Runs of searches that are alike end alike. -/
theorem run_eq
    (hAlike : left.Alike right) :
    left.run.1 = right.run.1 ∧
      left.run.2.progress = right.run.2.progress := by
  unfold run
  rw [explore_alike hAlike.slots, hAlike.data_eq,
    hAlike.budget_eq, hAlike.progress_eq]
  exact ⟨rfl, rfl⟩

/- Every operation leaves searches alike. -/
theorem perform
    (hAlike : left.Alike right)
    (operation : Operation) :
    (left.perform operation).Alike
      (right.perform operation) := by
  cases operation with
  | run =>
      exact
        ⟨hAlike.slots, hAlike.data_eq, hAlike.budget_eq,
          hAlike.run_eq.2⟩
  | changeBudget budget =>
      exact
        ⟨hAlike.slots, hAlike.data_eq, rfl,
          hAlike.progress_eq⟩
  | candidates index offset => exact hAlike

theorem performAll
    (hAlike : left.Alike right)
    (operations : List Operation) :
    (left.performAll operations).Alike
      (right.performAll operations) := by
  induction operations generalizing left right with
  | nil => exact hAlike
  | cons operation operations ih =>
      exact ih (hAlike.perform operation)

end Alike

end Search

end TextTemplate

------------------------------------------------------------
-- Matches of Pieces That Are Alike
------------------------------------------------------------

namespace TextTemplate

/- Segments are reported under the names alone. -/
theorem Fields.assembleFrom_of_names
    {left right : List Piece}
    (hNames : left.map Piece.name = right.map Piece.name)
    (data : ByteArray)
    (lengths : List Nat)
    (offset : Nat)
    (fields : Fields) :
    assembleFrom data (left.zip lengths) offset fields =
      assembleFrom data (right.zip lengths) offset
        fields := by
  induction left generalizing right lengths offset fields
  with
  | nil =>
      obtain rfl := List.map_eq_nil_iff.mp hNames.symm
      rfl
  | cons piece later ih =>
      cases right with
      | nil => exact nomatch hNames
      | cons piece' later' =>
          injection hNames with hName hLater
          cases lengths with
          | nil => rfl
          | cons length lengths =>
              simp only [List.zip_cons_cons, assembleFrom,
                hName]
              split
              · exact ih hLater _ _ _
              · split
                · rfl
                · exact ih hLater _ _ _

/-
  Pieces that are alike and have the same names match alike,
  with the same notices.
-/
theorem Match.pieces_alike
    {left right : List Piece}
    (hAlike : List.Forall₂ Piece.Alike left right)
    (hNames : left.map Piece.name = right.map Piece.name)
    (data : ByteArray)
    (budget : Option Int) :
    Match.pieces left data budget =
      Match.pieces right data budget := by
  have hStart := Search.start_alike hAlike data budget
  have hSteps :
      (Search.start left data budget).run.2.steps =
        (Search.start right data budget).run.2.steps :=
    congrArg Progress.steps hStart.run_eq.2
  have hFields : ∀ lengths,
      Fields.assemble left data lengths =
        Fields.assemble right data lengths := by
    intro lengths
    exact Fields.assembleFrom_of_names hNames data lengths
      0 .empty
  unfold Match.pieces Match.conclude
  simp only [hStart.run_eq.1, hSteps, hFields,
    hAlike.length_eq]

namespace Search

/-
  A search depends on the lengths of pieces through the
  first and the last length only.  Searches for pieces that
  are alike have the same candidates, outcomes and numbers
  of steps, whatever was done with both before.  If also the
  names are the same, the matches are the same.  An end that
  excludes a number is like one that includes the next or
  the previous number, and no lower end is like one at 0.
-/
theorem alike_pieces_searched_alike
    {left right : List Piece}
    (hAlike : List.Forall₂ Piece.Alike left right)
    (data : ByteArray)
    (budget : Option Int) :
    (∀ operations search search',
      search =
        (start left data budget).performAll operations →
      search' =
        (start right data budget).performAll operations →
        (∀ index offset,
          search.candidates index offset =
            search'.candidates index offset) ∧
        search.steps = search'.steps ∧
        search.run.1 = search'.run.1 ∧
        search.run.2.steps = search'.run.2.steps) ∧
      (left.map Piece.name = right.map Piece.name →
        Match.pieces left data budget =
          Match.pieces right data budget) ∧
      (∀ value high,
        Interval.SameLengths ⟨some (.after value), high⟩
          ⟨some (.inclusive (value + 1)), high⟩) ∧
      (∀ low value,
        Interval.SameLengths ⟨low, some (.before value)⟩
          ⟨low, some (.inclusive (value - 1))⟩) ∧
      ∀ high,
        Interval.SameLengths ⟨none, high⟩
          ⟨some (.inclusive 0), high⟩ := by
  refine ⟨?_, ?_, ?_, ?_, ?_⟩
  · rintro operations search search' rfl rfl
    have hSearches :=
      (start_alike hAlike data budget).performAll operations
    refine ⟨hSearches.candidates_eq, hSearches.steps_eq,
      hSearches.run_eq.1, ?_⟩
    exact congrArg Progress.steps hSearches.run_eq.2
  · intro hNames
    exact Match.pieces_alike hAlike hNames data budget
  · exact Interval.sameLengths_after
  · exact Interval.sameLengths_before
  · exact Interval.sameLengths_unbound

/-
  A field of one or two letters, a field of at most one byte
  and a letter, each with its lengths written in two ways and
  with the letters listed in two orders.
-/
theorem alike_pieces_searched_alike_rewritten :
    let left : List Piece :=
      [⟨.named "x", ⟨some (.after 0), some (.before 3)⟩,
          .oneOf (.ofList [97, 98]) false⟩,
        ⟨.named "y", ⟨none, some (.inclusive 1)⟩, .anyByte⟩,
        .literal ⟨#[98]⟩]
    let right : List Piece :=
      [⟨.named "x", BoundedInterval.toInterval (.span 1 2),
          .oneOf (.ofList [98, 97]) false⟩,
        ⟨.named "y",
          ⟨some (.inclusive 0), some (.before 2)⟩, .anyByte⟩,
        .literal ⟨#[98]⟩]
    let data : ByteArray := ⟨#[97, 98, 97, 98]⟩
    left ≠ right ∧
      (start left data (some 3)).run.1 =
        (start right data (some 3)).run.1 ∧
      Match.pieces left data none =
        Match.pieces right data none := by
  intro left right data
  have hSets :
      ByteSet.ofList [97, 98] = ByteSet.ofList [98, 97] := by
    apply ByteSet.ext
    intro byte
    rw [ByteSet.contains_ofList, ByteSet.contains_ofList,
      Bool.eq_iff_iff]
    simp [or_comm]
  have hAlike : List.Forall₂ Piece.Alike left right :=
    .cons ⟨rfl, congrArg (Content.oneOf · false) hSets,
        rfl, rfl⟩
      (.cons ⟨rfl, rfl, rfl, rfl⟩
        (.cons ⟨rfl, rfl, rfl, rfl⟩ .nil))
  refine ⟨by decide, ?_, ?_⟩
  · exact ((alike_pieces_searched_alike hAlike data
      (some 3)).1 [] _ _ rfl rfl).2.2.1
  · exact (alike_pieces_searched_alike hAlike data
      none).2.1 rfl

end Search

end TextTemplate
