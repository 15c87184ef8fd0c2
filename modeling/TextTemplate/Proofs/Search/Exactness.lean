import Mathlib.Algebra.Ring.Int.Defs
import TextTemplate.Proofs.Search.Preference

/-
  Candidates are exactly the lengths that promise anything.

  A length is promising when the piece allows it within what
  remains of the input, the content accepts as many bytes,
  and what is left is not too little and not too much for
  the later pieces.  The bounds for the later pieces are
  plain sums of their ends, which need not be lengths that
  any piece can have: an end may be negative or lie beyond
  the other.  Still no segment of a decomposition is lost.

  Main declarations:
    * `Piece.Promises`
    * `Room.least_ofPieces`
    * `Room.greatest_ofPieces_eq_some_iff`
    * `Slot.mem_range_iff_promises`
    * `decomposes_extract`
    * `Search.candidates_exact`
-/

------------------------------------------------------------
-- Promising Lengths
------------------------------------------------------------

namespace TextTemplate

namespace Piece

/-
  Whether a length is worth trying for a piece at an offset
  of the input, given the pieces after it.
-/
structure Promises
    (piece : Piece)
    (later : List Piece)
    (data : ByteArray)
    (offset : Nat)
    (length : Int) : Prop where
  bounded :
    ∃ bounded,
      piece.length.boundedWithin 0 (data.size - offset) =
          .ok bounded ∧
        length ∈ bounded
  scanned :
    piece.content.scan data offset
      (offset + length.toNat) = length
  least_le :
    (later.map fun other =>
        max 0 (other.length.first.getD 0)).sum ≤
      data.size - offset - length
  le_greatest :
    ∀ lasts : List Int,
      later.map (fun other => other.length.last) =
          lasts.map some →
        data.size - offset - length ≤ lasts.sum

/- The lengths that a piece allows within what remains. -/
theorem bounded_iff
    {piece : Piece}
    {remaining length : Int} :
    (∃ bounded,
        piece.length.boundedWithin 0 remaining =
            .ok bounded ∧
          length ∈ bounded) ↔
      0 ≤ piece.leastLength ∧
        piece.leastLength ≤ length ∧
        length ≤ piece.greatestLength remaining ∧
        piece.greatestLength remaining ≤ remaining := by
  simp only [Interval.boundedWithin_eq_ok_iff, and_assoc,
    exists_and_left, exists_eq_left']
  rw [BoundedInterval.isWithin_span_iff,
    BoundedInterval.mem_iff, Interval.clamped_first,
    Interval.clamped_last, ← leastLength, ← greatestLength]
  omega

/- A promising length does not leave the input. -/
theorem Promises.le_remaining
    {piece : Piece}
    {later : List Piece}
    {data : ByteArray}
    {offset : Nat}
    {length : Int}
    (hPromises :
      piece.Promises later data offset length) :
    0 ≤ length ∧ length ≤ data.size - offset := by
  have hBounded := bounded_iff.mp hPromises.bounded
  omega

end Piece

end TextTemplate

------------------------------------------------------------
-- Sums of Ends
------------------------------------------------------------

namespace TextTemplate

namespace Room

/- The least room is the sum of the lower ends above zero. -/
theorem least_ofPieces
    (pieces : List Piece) :
    ((ofPieces pieces).least : Int) =
      (pieces.map fun piece =>
        max 0 (piece.length.first.getD 0)).sum := by
  induction pieces with
  | nil => rfl
  | cons piece later ih =>
      rw [List.map_cons, List.sum_cons, ← ih]
      change
        (((ofPieces later).least +
          (piece.length.first.getD 0).toNat : Nat) : Int) =
            _
      omega

/-
  The greatest room is the sum of the upper ends, when all
  of them are present.
-/
theorem greatest_ofPieces_eq_some_iff
    {pieces : List Piece}
    {greatest : Int} :
    (ofPieces pieces).greatest = some greatest ↔
      ∃ lasts : List Int,
        pieces.map (fun piece => piece.length.last) =
            lasts.map some ∧
          lasts.sum = greatest := by
  induction pieces generalizing greatest with
  | nil =>
      simp [ofPieces, zero]
  | cons piece later ih =>
      have hExtend :
          (ofPieces (piece :: later)).greatest = some greatest ↔
            ∃ last, piece.length.last = some last ∧
              ∃ room, (ofPieces later).greatest = some room ∧
                room + last = greatest := by
        change
          (extend piece (ofPieces later)).greatest = _ ↔ _
        rw [extend]
        cases piece.length.last <;>
          cases (ofPieces later).greatest <;> simp
      rw [hExtend]
      constructor
      · rintro ⟨last, hLast, room, hRoom, rfl⟩
        rcases ih.mp hRoom with ⟨lasts, hLasts, rfl⟩
        refine ⟨last :: lasts, ?_, ?_⟩
        · rw [List.map_cons, List.map_cons, hLast, hLasts]
        · rw [List.sum_cons, Int.add_comm]
      · rintro ⟨_ | ⟨last, lasts⟩, hLasts, rfl⟩
        · cases hLasts
        · rw [List.map_cons, List.map_cons,
            List.cons.injEq] at hLasts
          refine ⟨last, hLasts.1, lasts.sum, ?_, ?_⟩
          · exact ih.mpr ⟨lasts, hLasts.2, rfl⟩
          · rw [List.sum_cons, Int.add_comm]

end Room

namespace Slot

/- The candidates of a slot are the promising lengths. -/
theorem offers_iff_promises
    {piece : Piece}
    {later : List Piece}
    {data : ByteArray}
    {offset length : Nat} :
    Slot.Offers ⟨piece, Room.ofPieces later⟩ data offset
        length ↔
      piece.Promises later data offset length := by
  have hScan
      (hEnd : (length : Int) ≤ data.size - offset) :
      piece.content.scan data offset
          (offset + (length : Int).toNat) = (length : Int) ↔
        piece.content.allowsAll 0 false
          (Content.bytes
            (data.extract offset (offset + length))) =
              true := by
    rw [Int.toNat_natCast, Int.natCast_inj]
    exact Content.scan_eq_iff _ _ _ _ (by omega)
  rw [offers_iff, ← Piece.bounded_iff]
  simp only [Room.least_ofPieces, Option.mem_def,
    Room.greatest_ofPieces_eq_some_iff]
  constructor
  · rintro ⟨hBounded, hAllowed, hLeast, hGreatest⟩
    have hLength := Piece.bounded_iff.mp hBounded
    refine ⟨hBounded, (hScan (by omega)).mpr hAllowed,
      hLeast, ?_⟩
    intro lasts hLasts
    exact hGreatest _ ⟨lasts, hLasts, rfl⟩
  · intro hPromises
    have hLength := hPromises.le_remaining
    refine ⟨hPromises.bounded,
      (hScan hLength.2).mp hPromises.scanned,
      hPromises.least_le, ?_⟩
    rintro _ ⟨lasts, hLasts, rfl⟩
    exact hPromises.le_greatest lasts hLasts

/- The range of candidates holds the promising lengths. -/
theorem mem_range_iff_promises
    {piece : Piece}
    {later : List Piece}
    {data : ByteArray}
    {offset : Nat}
    {range : LengthRange}
    (hRange :
      Slot.candidates ⟨piece, Room.ofPieces later⟩ data
        offset = some range)
    {length : Int} :
    range.shortest ≤ length ∧ length ≤ range.longest ↔
      piece.Promises later data offset length := by
  have hNat (size : Nat) :
      range.shortest ≤ (size : Int) ∧
          (size : Int) ≤ range.longest ↔
        piece.Promises later data offset size := by
    rw [← offers_iff_promises, offers_iff_of_some hRange,
      LengthRange.mem_iff, Int.ofNat_le, Int.ofNat_le]
  constructor
  · intro hLength
    obtain ⟨size, rfl⟩ := Int.eq_ofNat_of_zero_le
      (show 0 ≤ length by omega)
    exact (hNat size).mp hLength
  · intro hPromises
    obtain ⟨size, rfl⟩ := Int.eq_ofNat_of_zero_le
      hPromises.le_remaining.1
    exact (hNat size).mpr hPromises

/- Without candidates no length is promising. -/
theorem candidates_eq_none_iff
    {piece : Piece}
    {later : List Piece}
    {data : ByteArray}
    {offset : Nat} :
    Slot.candidates ⟨piece, Room.ofPieces later⟩ data
          offset = none ↔
      ∀ length,
        ¬ piece.Promises later data offset length := by
  constructor
  · intro hNone length hPromises
    obtain ⟨size, rfl⟩ := Int.eq_ofNat_of_zero_le
      hPromises.le_remaining.1
    exact not_offers_of_none hNone size
      (offers_iff_promises.mpr hPromises)
  · intro hNothing
    cases hRange :
        Slot.candidates ⟨piece, Room.ofPieces later⟩ data
          offset with
    | none => rfl
    | some range =>
        have hOrdered := range.ordered
        exact absurd
          ((mem_range_iff_promises hRange).mp
            ⟨Int.le_refl range.shortest, by omega⟩)
          (hNothing _)

end Slot

end TextTemplate

------------------------------------------------------------
-- Decompositions of What Remains
------------------------------------------------------------

namespace TextTemplate

/- A position of the rest is one of the whole input. -/
theorem Utf8.isBoundary_extract
    (data : ByteArray)
    (start position : Nat) :
    isBoundary (data.extract start data.size) position =
      isBoundary data (start + position) := by
  have hByte :
      (data.extract start data.size)[position]? =
        data[start + position]? := by
    rw [Content.getElem?_eq_bytes, Content.bytes_extract_size,
      List.getElem?_drop, ← Content.getElem?_eq_bytes]
  rw [isBoundary, isBoundary, hByte]

/- A segment of the rest is one of the whole input. -/
theorem Piece.admits_extract
    {piece : Piece}
    {data : ByteArray}
    {start offset length : Nat}
    (hStart : start ≤ data.size) :
    piece.Admits (data.extract start data.size) offset
        length ↔
      piece.Admits data (start + offset) length := by
  have hSize :
      ((data.extract start data.size).size : Int) - offset =
        data.size - (start + offset : Nat) := by
    rw [ByteArray.size_extract]
    omega
  have hSegment
      (hEnd : start + offset + length ≤ data.size) :
      (data.extract start data.size).extract offset
          (offset + length) =
        data.extract (start + offset)
          (start + offset + length) := by
    rw [ByteArray.extract_extract, Nat.add_assoc,
      Nat.min_eq_left (by omega)]
  constructor
  · intro hAdmits
    have hEnd := hAdmits.le_size
    rw [ByteArray.size_extract] at hEnd
    have hAccepts := hAdmits.accepts
    have hUncut := hAdmits.uncut
    rw [hSegment (by omega)] at hAccepts
    rw [Utf8.isBoundary_extract, Utf8.isBoundary_extract,
      ← Nat.add_assoc] at hUncut
    exact
      ⟨hAdmits.least_nonneg, hAdmits.least_le,
        hSize ▸ hAdmits.le_greatest,
        hSize ▸ hAdmits.greatest_le, hAccepts, hUncut⟩
  · intro hAdmits
    have hEnd := hAdmits.le_size
    have hAccepts := hAdmits.accepts
    have hUncut := hAdmits.uncut
    rw [← hSegment hEnd] at hAccepts
    rw [Nat.add_assoc, ← Utf8.isBoundary_extract,
      ← Utf8.isBoundary_extract] at hUncut
    exact
      ⟨hAdmits.least_nonneg, hAdmits.least_le,
        hSize ▸ hAdmits.le_greatest,
        hSize ▸ hAdmits.greatest_le, hAccepts, hUncut⟩

/-
  Decomposing the rest of the input is decomposing the input
  from there on.
-/
theorem decomposes_extract
    {data : ByteArray}
    {pieces : List Piece}
    {start : Nat}
    {lengths : List Nat}
    (hStart : start ≤ data.size) :
    Decomposes (data.extract start data.size) pieces 0
        lengths ↔
      Decomposes data pieces start lengths := by
  have hSum :
      0 + lengths.sum =
          (data.extract start data.size).size ↔
        start + lengths.sum = data.size := by
    rw [ByteArray.size_extract]
    omega
  constructor
  · rintro ⟨hLength, hCover, hAdmits⟩
    refine ⟨hLength, hSum.mp hCover, ?_⟩
    intro index piece length hPiece hSize
    have hOne := hAdmits index piece length hPiece hSize
    rw [Nat.zero_add, Piece.admits_extract hStart] at hOne
    exact hOne
  · rintro ⟨hLength, hCover, hAdmits⟩
    refine ⟨hLength, hSum.mpr hCover, ?_⟩
    intro index piece length hPiece hSize
    rw [Nat.zero_add, Piece.admits_extract hStart]
    exact hAdmits index piece length hPiece hSize

end TextTemplate

------------------------------------------------------------
-- Exact Candidates
------------------------------------------------------------

namespace TextTemplate

namespace Search

/- The candidates at an index are those of its slot. -/
theorem candidates_start
    {pieces later : List Piece}
    {piece : Piece}
    {index : Nat}
    (hDrop : pieces.drop index = piece :: later)
    (data : ByteArray)
    (budget : Option Int)
    (offset : Nat) :
    (start pieces data budget).candidates index offset =
      Slot.candidates ⟨piece, Room.ofPieces later⟩ data
        offset := by
  rw [candidates, start]
  simp only [getElem?_ofPieces hDrop]

/- A decomposition begins with a promising length. -/
theorem promises_of_decomposes
    {data : ByteArray}
    {piece : Piece}
    {later : List Piece}
    {offset length : Nat}
    {lengths : List Nat}
    (hDecomposes :
      Decomposes data (piece :: later) offset
        (length :: lengths)) :
    piece.Promises later data offset length := by
  have hIndex :
      (⟨0, offset⟩ : Place).index ≤
        (piece :: later).length :=
    Nat.zero_le _
  have hCompletes :=
    (completes_iff_decomposes hIndex).mpr hDecomposes
  cases hCompletes with
  | step hViable _ =>
      have hSlot :
          (Slot.ofPieces (piece :: later))[0]? =
            some ⟨piece, Room.ofPieces later⟩ := by
        rw [Slot.ofPieces_cons, List.getElem?_cons_zero]
      have hOffers := ((viable_iff hSlot).mp hViable).1
      exact Slot.offers_iff_promises.mp hOffers

/-
  Candidates are exact.  At an index and an offset within
  the input, there are none if no length is promising, and
  otherwise they are the range of all promising lengths.  The
  first length of a decomposition of what remains is always
  promising, and a promising length does not leave the
  input.
-/
theorem candidates_exact
    (pieces : List Piece)
    (data : ByteArray)
    (budget : Option Int)
    (index offset : Nat)
    (hIndex : index < pieces.length)
    (hOffset : offset ≤ data.size) :
    let piece := pieces[index]
    let later := pieces.drop (index + 1)
    let candidates :=
      (start pieces data budget).candidates index offset
    (candidates = none ↔
      ∀ length,
        ¬ piece.Promises later data offset length) ∧
    (∀ range, candidates = some range →
      ∀ length : Int,
        range.shortest ≤ length ∧ length ≤ range.longest ↔
          piece.Promises later data offset length) ∧
    (∀ length lengths,
      Decomposes (data.extract offset data.size)
          (pieces.drop index) 0 (length :: lengths) →
        piece.Promises later data offset length) ∧
    (∀ length,
      piece.Promises later data offset length →
        0 ≤ length ∧ length ≤ data.size - offset) := by
  intro piece later candidates
  have hDrop : pieces.drop index = piece :: later :=
    List.drop_eq_getElem_cons hIndex
  have hCandidates :
      candidates =
        Slot.candidates ⟨piece, Room.ofPieces later⟩ data
          offset :=
    candidates_start hDrop data budget offset
  rw [hCandidates, hDrop]
  refine ⟨Slot.candidates_eq_none_iff, ?_, ?_, ?_⟩
  · intro range hRange length
    exact Slot.mem_range_iff_promises hRange
  · intro length lengths hDecomposes
    rw [decomposes_extract hOffset] at hDecomposes
    exact promises_of_decomposes hDecomposes
  · intro length hPromises
    exact hPromises.le_remaining

/-
  A number before a piece of at most two bytes, whose lower
  end is negative and counts as zero.
-/
theorem candidates_exact_negative_end :
    let number : Piece := ⟨.named "x", .all, .unsigned⟩
    let rest : Piece :=
      ⟨.anonymous,
        ⟨some (.inclusive (-1)), some (.before 3)⟩,
        .anyByte⟩
    ∀ length : Int,
      2 ≤ length ∧ length ≤ 3 ↔
        number.Promises [rest] ⟨#[49, 50, 51, 97]⟩ 0
          length := by
  intro number rest
  have hExact :=
    candidates_exact [number, rest] ⟨#[49, 50, 51, 97]⟩ none
      0 0 (by decide) (by decide)
  exact hExact.2.1 ⟨2, 3, by decide⟩ rfl

end Search

end TextTemplate
