import TextTemplate.Proofs.Content.Scan
import TextTemplate.Proofs.Interval.Clamp
import TextTemplate.Proofs.Search.Refutation

/-
  Candidates lose no segment and admit no wrong one.

  `Slot.offers_iff` says exactly which lengths are
  candidates.  Over the slots of a list of pieces, complete
  ways through the slots are the decompositions.

  Main declarations:
    * `Slot.offers_iff`
    * `Room.covers_of_decomposes`
    * `Search.completes_iff_decomposes`
-/

------------------------------------------------------------
-- Clamped Lengths
------------------------------------------------------------

namespace TextTemplate

namespace Piece

/-
  Whether the lengths in view lie within what remains, and
  there are any.
-/
def Within
    (piece : Piece)
    (remaining : Int) : Prop :=
  0 ≤ piece.leastLength ∧
    piece.leastLength ≤ piece.greatestLength remaining ∧
    piece.greatestLength remaining ≤ remaining

/- The lengths in view are those of the clamped interval. -/
theorem within_iff
    (piece : Piece)
    (remaining : Int) :
    piece.Within remaining ↔
      (piece.length.clamped 0 remaining).isWithin
          (.span 0 remaining) = true ∧
        (piece.length.clamped 0 remaining).isEmpty =
          false := by
  rw [BoundedInterval.isWithin_span_iff,
    BoundedInterval.isEmpty, decide_eq_false_iff_not,
    Interval.clamped_first, Interval.clamped_last]
  unfold Within leastLength greatestLength
  omega

end Piece

end TextTemplate

------------------------------------------------------------
-- Exact Candidates
------------------------------------------------------------

namespace TextTemplate

namespace Slot

/- The lower limit leaves no more than can be covered. -/
theorem lowerLimit_le_iff
    (slot : Slot)
    (bounded : BoundedInterval)
    (remaining length : Int) :
    slot.lowerLimit bounded remaining ≤ length ↔
      bounded.first ≤ length ∧
        ∀ greatest ∈ slot.later.greatest,
          remaining - length ≤ greatest := by
  rw [lowerLimit]
  cases slot.later.greatest with
  | none => simp
  | some greatest =>
      simp only [Option.mem_some_iff, forall_eq']
      omega

/- The upper limit leaves as much as has to be covered. -/
theorem le_upperLimit_iff
    (slot : Slot)
    (bounded : BoundedInterval)
    (remaining length : Int) :
    length ≤ slot.upperLimit bounded remaining ↔
      length ≤ bounded.last ∧
        (slot.later.least : Int) ≤ remaining - length := by
  rw [upperLimit]
  omega

/- The scan keeps the lengths whose bytes are allowed. -/
theorem scanned_offers_iff
    (slot : Slot)
    (data : ByteArray)
    (offset : Nat)
    (lower upper : Int)
    (hLower : 0 ≤ lower)
    (hUpper : offset + upper ≤ data.size)
    (length : Nat) :
    (∃ range,
        slot.scanned data offset lower upper = some range ∧
          length ∈ range) ↔
      lower ≤ length ∧ (length : Int) ≤ upper ∧
        slot.piece.content.allowsAll 0 false
          (Content.bytes
            (data.extract offset (offset + length))) =
          true := by
  by_cases hOrdered : lower ≤ upper
  · have hScan := fun hLength =>
      Content.le_scan_iff slot.piece.content data offset
        upper.toNat length (by omega) hLength
    rw [scanned, if_neg (by omega)]
    constructor
    · rintro ⟨range, hRange, hShortest, hLongest⟩
      simp only [LengthRange.between?] at hRange
      split at hRange
      · rw [Option.some_inj] at hRange
        subst hRange
        simp only at hShortest hLongest
        exact ⟨by omega, by omega,
          (hScan (by omega)).mp (by omega)⟩
      · exact nomatch hRange
    · rintro ⟨hShortest, hLongest, hAllowed⟩
      have hAccepted := (hScan (by omega)).mpr hAllowed
      simp only [LengthRange.between?]
      rw [dif_pos (by omega)]
      refine ⟨_, rfl, ?_, ?_⟩
      · simp only
        omega
      · simp only
        omega
  · rw [scanned, if_pos (by omega)]
    constructor
    · rintro ⟨range, hRange, _⟩
      exact nomatch hRange
    · rintro ⟨hShortest, hLongest, _⟩
      omega

/- Candidates are scanned when there are lengths in view. -/
theorem candidates_of_within
    {slot : Slot}
    {data : ByteArray}
    {offset : Nat}
    (hWithin : slot.piece.Within (data.size - offset)) :
    slot.candidates data offset =
      slot.scanned data offset
        (slot.lowerLimit
          (slot.piece.length.clamped 0 (data.size - offset))
          (data.size - offset))
        (slot.upperLimit
          (slot.piece.length.clamped 0 (data.size - offset))
          (data.size - offset)) := by
  rcases (Piece.within_iff _ _).mp hWithin with
    ⟨hIsWithin, hNotEmpty⟩
  unfold candidates Interval.boundedWithin
  simp only
  rw [if_pos hIsWithin]
  simp only [hNotEmpty, Bool.false_eq_true, if_false]

/- Without lengths in view there are no candidates. -/
theorem candidates_of_not_within
    {slot : Slot}
    {data : ByteArray}
    {offset : Nat}
    (hOutside :
      ¬ slot.piece.Within (data.size - offset)) :
    slot.candidates data offset = none := by
  rw [Piece.within_iff] at hOutside
  unfold candidates Interval.boundedWithin
  simp only
  by_cases hIsWithin :
      (slot.piece.length.clamped 0
        (data.size - offset)).isWithin
          (.span 0 (data.size - offset)) = true
  · have hEmpty :
        (slot.piece.length.clamped 0
          (data.size - offset)).isEmpty = true := by
      rw [← Bool.not_eq_false]
      exact fun hNot => hOutside ⟨hIsWithin, hNot⟩
    rw [if_pos hIsWithin]
    simp only [hEmpty, if_true]
  · rw [if_neg hIsWithin]

/-
  A length is a candidate exactly when the piece allows it
  within what remains, its bytes are allowed, and the later
  pieces can cover the rest.
-/
theorem offers_iff
    (slot : Slot)
    (data : ByteArray)
    (offset : Nat)
    (length : Nat) :
    slot.Offers data offset length ↔
      (0 ≤ slot.piece.leastLength ∧
        slot.piece.leastLength ≤ length ∧
        (length : Int) ≤
          slot.piece.greatestLength (data.size - offset) ∧
        slot.piece.greatestLength (data.size - offset) ≤
          data.size - offset) ∧
      slot.piece.content.allowsAll 0 false
        (Content.bytes
          (data.extract offset (offset + length))) = true ∧
      (slot.later.least : Int) ≤
        data.size - offset - length ∧
      ∀ greatest ∈ slot.later.greatest,
        (data.size : Int) - offset - length ≤ greatest := by
  by_cases hWithin : slot.piece.Within (data.size - offset)
  · have hFirst := slot.piece.length.clamped_first 0
      ((data.size : Int) - offset)
    have hLast := slot.piece.length.clamped_last 0
      ((data.size : Int) - offset)
    rw [← Piece.leastLength] at hFirst
    rw [← Piece.greatestLength] at hLast
    unfold Offers
    rw [candidates_of_within hWithin]
    unfold Piece.Within at hWithin
    generalize slot.piece.length.clamped 0
      ((data.size : Int) - offset) = bounded at *
    have hLower := slot.lowerLimit_le_iff bounded
      (data.size - offset)
    have hUpper := slot.le_upperLimit_iff bounded
      (data.size - offset)
    have hLowerSelf := ((hLower _).mp (Int.le_refl _)).1
    have hUpperSelf := ((hUpper _).mp (Int.le_refl _)).1
    rw [scanned_offers_iff slot data offset _ _ (by omega)
      (by omega), hLower, hUpper, hFirst, hLast]
    constructor
    · rintro ⟨⟨hLeast, hRoom⟩, ⟨hGreatest, hNeed⟩,
        hAllowed⟩
      exact
        ⟨⟨hWithin.1, hLeast, hGreatest, hWithin.2.2⟩,
          hAllowed, hNeed, hRoom⟩
    · rintro ⟨⟨_, hLeast, hGreatest, _⟩, hAllowed, hNeed,
        hRoom⟩
      exact
        ⟨⟨hLeast, hRoom⟩, ⟨hGreatest, hNeed⟩, hAllowed⟩
  · have hNone := candidates_of_not_within hWithin
    unfold Piece.Within at hWithin
    constructor
    · intro hOffers
      exact absurd hOffers (not_offers_of_none hNone length)
    · rintro ⟨hLengths, _⟩
      omega

end Slot

end TextTemplate

------------------------------------------------------------
-- Room for the Later Pieces
------------------------------------------------------------

namespace TextTemplate

/-
  What pieces decompose lies within the room that was
  counted for them.
-/
theorem Room.covers_of_decomposes
    {data : ByteArray}
    {pieces : List Piece}
    {offset : Nat}
    {lengths : List Nat}
    (hDecomposes : Decomposes data pieces offset lengths) :
    ((Room.ofPieces pieces).least : Int) ≤
        data.size - offset ∧
      ∀ greatest ∈ (Room.ofPieces pieces).greatest,
        (data.size : Int) - offset ≤ greatest := by
  induction pieces generalizing offset lengths with
  | nil =>
      have hOffset := (decomposes_nil.mp hDecomposes).2
      simp [ofPieces, zero, hOffset]
  | cons piece later ih =>
      cases lengths with
      | nil =>
          exact absurd hDecomposes not_decomposes_cons_nil
      | cons length lengths =>
          obtain ⟨hAdmits, hLater⟩ :=
            decomposes_cons.mp hDecomposes
          have hRoom := ih hLater
          have hLeast := hAdmits.least_le
          have hGreatest := hAdmits.le_greatest
          rw [Piece.leastLength] at hLeast
          rw [Piece.greatestLength] at hGreatest
          constructor
          · change
              (((Room.ofPieces later).least +
                (piece.length.first.getD 0).toNat : Nat) :
                  Int) ≤ _
            omega
          · change
              ∀ greatest ∈
                (extend piece (Room.ofPieces later)).greatest,
                _
            intro greatest hSome
            simp only [extend] at hSome
            split at hSome
            · rename_i last room hLast hRoomGreatest
              rw [hLast] at hGreatest
              have hRest := hRoom.2 room hRoomGreatest
              simp only [Option.getD_some,
                Option.mem_some_iff] at hGreatest hSome
              omega
            · cases hSome

end TextTemplate

------------------------------------------------------------
-- Fitting Segments
------------------------------------------------------------

namespace TextTemplate

namespace Piece

/-
  A segment is admitted when its length is allowed, its bytes
  are allowed, and it fits.
-/
theorem admits_iff
    (piece : Piece)
    (data : ByteArray)
    (offset length : Nat) :
    piece.Admits data offset length ↔
      (0 ≤ piece.leastLength ∧
        piece.leastLength ≤ length ∧
        (length : Int) ≤
          piece.greatestLength (data.size - offset) ∧
        piece.greatestLength (data.size - offset) ≤
          data.size - offset) ∧
      piece.content.allowsAll 0 false
        (Content.bytes
          (data.extract offset (offset + length))) = true ∧
      piece.fits data offset length = true := by
  have hAccepts :
      offset + length ≤ data.size →
        (piece.content.accepts
            (data.extract offset (offset + length)) = true ↔
          piece.content.allowsAll 0 false
              (Content.bytes
                (data.extract offset (offset + length))) =
              true ∧
            piece.content.complete data offset
              (offset + length) = true) := by
    intro hEnd
    have hSize :
        (data.extract offset (offset + length)).size =
          length := by
      rw [ByteArray.size_extract]
      omega
    rw [Content.accepts_iff, hSize,
      ← Content.complete_extract]
  have hFits :
      piece.fits data offset length = true ↔
        piece.content.complete data offset
            (offset + length) = true ∧
          (piece.isAnonymous = false →
            Utf8.isBoundary data offset = true ∧
              Utf8.isBoundary data (offset + length) =
                true) := by
    rw [fits]
    cases piece.isAnonymous <;> simp
  constructor
  · intro hAdmits
    obtain ⟨hAllowed, hComplete⟩ :=
      (hAccepts hAdmits.le_size).mp hAdmits.accepts
    exact
      ⟨⟨hAdmits.least_nonneg, hAdmits.least_le,
          hAdmits.le_greatest, hAdmits.greatest_le⟩,
        hAllowed, hFits.mpr ⟨hComplete, hAdmits.uncut⟩⟩
  · rintro ⟨⟨hNonneg, hLeast, hGreatest, hRemaining⟩,
      hAllowed, hFit⟩
    obtain ⟨hComplete, hUncut⟩ := hFits.mp hFit
    exact
      ⟨hNonneg, hLeast, hGreatest, hRemaining,
        (hAccepts (by omega)).mpr ⟨hAllowed, hComplete⟩,
        hUncut⟩

end Piece

end TextTemplate

------------------------------------------------------------
-- Ways Through the Slots of Pieces
------------------------------------------------------------

namespace TextTemplate

/- Slots from an index on are the slots of those pieces. -/
theorem Slot.drop_ofPieces
    (pieces : List Piece)
    (index : Nat) :
    (Slot.ofPieces pieces).drop index =
      Slot.ofPieces (pieces.drop index) := by
  induction pieces generalizing index with
  | nil => simp [Slot.ofPieces_nil]
  | cons piece later ih =>
      cases index with
      | zero => rfl
      | succ index =>
          rw [Slot.ofPieces_cons, List.drop_succ_cons,
            List.drop_succ_cons, ih]

theorem Slot.length_ofPieces
    (pieces : List Piece) :
    (Slot.ofPieces pieces).length = pieces.length := by
  induction pieces with
  | nil => rfl
  | cons piece later ih =>
      rw [Slot.ofPieces_cons, List.length_cons,
        List.length_cons, ih]

namespace Search

/- The slot at a place knows the pieces from there on. -/
theorem getElem?_ofPieces
    {pieces : List Piece}
    {index : Nat}
    {piece : Piece}
    {later : List Piece}
    (hDrop : pieces.drop index = piece :: later) :
    (Slot.ofPieces pieces)[index]? =
      some ⟨piece, Room.ofPieces later⟩ := by
  have hSlots := Slot.drop_ofPieces pieces index
  rw [hDrop, Slot.ofPieces_cons] at hSlots
  exact getElem?_of_drop_eq_cons hSlots

/-
  A fitting candidate is an admitted segment that leaves room
  for the later pieces.
-/
theorem viable_ofPieces_iff
    {pieces : List Piece}
    {data : ByteArray}
    {place : Place}
    {piece : Piece}
    {later : List Piece}
    (hDrop : pieces.drop place.index = piece :: later)
    {length : Nat} :
    Viable (Slot.ofPieces pieces) data place length ↔
      piece.Admits data place.offset length ∧
        ((Room.ofPieces later).least : Int) ≤
          data.size - place.offset - length ∧
        ∀ greatest ∈ (Room.ofPieces later).greatest,
          (data.size : Int) - place.offset - length ≤
            greatest := by
  rw [viable_iff (getElem?_ofPieces hDrop),
    Slot.offers_iff _ data place.offset,
    Piece.admits_iff]
  constructor
  · rintro ⟨⟨hLengths, hAllowed, hRoom⟩, hFits⟩
    exact ⟨⟨hLengths, hAllowed, hFits⟩, hRoom⟩
  · rintro ⟨⟨hLengths, hAllowed, hFits⟩, hRoom⟩
    exact ⟨⟨hLengths, hAllowed, hRoom⟩, hFits⟩

/-
  Complete ways through the slots from a place on are the
  decompositions of the input from its offset on.
-/
theorem completes_iff_decomposes
    {pieces : List Piece}
    {data : ByteArray}
    {place : Place}
    (hIndex : place.index ≤ pieces.length)
    {lengths : List Nat} :
    Completes (Slot.ofPieces pieces) data place lengths ↔
      Decomposes data (pieces.drop place.index)
        place.offset lengths := by
  induction lengths generalizing place with
  | nil =>
      cases hDrop : pieces.drop place.index with
      | nil =>
          have hLength := List.drop_eq_nil_iff.mp hDrop
          rw [decomposes_nil]
          constructor
          · intro hCompletes
            cases hCompletes with
            | goal _ hEnd => exact ⟨rfl, hEnd⟩
          · rintro ⟨_, hEnd⟩
            refine .goal ?_ hEnd
            rw [Slot.length_ofPieces]
            omega
      | cons piece later =>
          constructor
          · intro hCompletes
            cases hCompletes with
            | goal hEnd _ =>
                rw [Slot.length_ofPieces] at hEnd
                simp [hEnd] at hDrop
          · intro hDecomposes
            exact absurd hDecomposes not_decomposes_cons_nil
  | cons length lengths ih =>
      cases hDrop : pieces.drop place.index with
      | nil =>
          have hLength := List.drop_eq_nil_iff.mp hDrop
          constructor
          · intro hCompletes
            cases hCompletes with
            | step hViable _ =>
                have hLess := hViable.index_lt
                rw [Slot.length_ofPieces] at hLess
                omega
          · intro hDecomposes
            exact nomatch (decomposes_nil.mp hDecomposes).1
      | cons piece later =>
          have hLater :
              pieces.drop (place.after length).index =
                later :=
            drop_succ_of_drop_eq_cons hDrop
          have hNext : place.index + 1 ≤ pieces.length :=
            index_lt_of_drop_eq_cons hDrop
          rw [decomposes_cons]
          constructor
          · intro hCompletes
            cases hCompletes with
            | step hViable hRest =>
                have hAdmits :=
                  ((viable_ofPieces_iff hDrop).mp hViable).1
                rw [ih hNext, hLater] at hRest
                exact ⟨hAdmits, hRest⟩
          · rintro ⟨hAdmits, hRest⟩
            have hRoom := Room.covers_of_decomposes hRest
            refine .step ?_ ?_
            · rw [viable_ofPieces_iff hDrop]
              refine ⟨hAdmits, ?_, ?_⟩
              · have hLeast := hRoom.1
                omega
              · intro greatest hGreatest
                have hMost := hRoom.2 greatest hGreatest
                omega
            · rw [ih hNext, hLater]
              exact hRest

end Search

end TextTemplate
