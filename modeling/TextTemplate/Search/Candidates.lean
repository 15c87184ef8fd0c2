import TextTemplate.Search.Room
import TextTemplate.Text.Utf8

/-
  The lengths worth trying for a piece at a position of the
  input.

  The lengths that the piece allows are cut to those that
  leave a fitting amount of input to the later pieces, and
  to those whose bytes the content accepts.  A candidate
  fits when its segment is complete and, for a named piece,
  does not cut a character.

  Key definitions include:
    * `LengthRange`
    * `Slot.candidates`
    * `Piece.fits`
-/

------------------------------------------------------------
-- Length Ranges
------------------------------------------------------------

namespace TextTemplate

/- A nonempty range of segment lengths. -/
structure LengthRange where
  shortest : Nat
  longest : Nat
  ordered : shortest ≤ longest

namespace LengthRange

/- The range between two lengths, unless it is empty. -/
def between?
    (shortest longest : Nat) : Option LengthRange :=
  if ordered : shortest ≤ longest then
    some ⟨shortest, longest, ordered⟩
  else
    none

/- The number of lengths. -/
def count
    (range : LengthRange) : Nat :=
  range.longest - range.shortest + 1

instance : Membership Nat LengthRange where
  mem range length :=
    range.shortest ≤ length ∧ length ≤ range.longest

/- A length belongs to a range that reaches around it. -/
theorem mem_iff
    {range : LengthRange}
    {length : Nat} :
    length ∈ range ↔
      range.shortest ≤ length ∧ length ≤ range.longest :=
  Iff.rfl

end LengthRange

end TextTemplate

------------------------------------------------------------
-- Candidates
------------------------------------------------------------

namespace TextTemplate

namespace Slot

/-
  The greatest candidate that leaves enough input to the
  later pieces.
-/
def upperLimit
    (slot : Slot)
    (bounded : BoundedInterval)
    (remaining : Int) : Int :=
  min bounded.last (remaining - slot.later.least)

/-
  The least candidate that leaves no more input than the
  later pieces can take.
-/
def lowerLimit
    (slot : Slot)
    (bounded : BoundedInterval)
    (remaining : Int) : Int :=
  match slot.later.greatest with
  | some greatest =>
      max bounded.first (remaining - greatest)
  | none => bounded.first

/-
  The candidates within bounds, cut to the bytes that the
  content accepts.
-/
def scanned
    (slot : Slot)
    (data : ByteArray)
    (offset : Nat)
    (lower upper : Int) : Option LengthRange :=
  if upper < lower then
    none
  else
    let upper := upper.toNat
    let accepted :=
      slot.piece.content.scan data offset (offset + upper)
    LengthRange.between? lower.toNat (min upper accepted)

/- The candidates for the piece of a slot at an offset. -/
def candidates
    (slot : Slot)
    (data : ByteArray)
    (offset : Nat) : Option LengthRange :=
  let remaining : Int := (data.size : Int) - offset
  match slot.piece.length.boundedWithin 0 remaining with
  | .error _ => none
  | .ok bounded =>
      if bounded.isEmpty then
        none
      else
        slot.scanned data offset
          (slot.lowerLimit bounded remaining)
          (slot.upperLimit bounded remaining)

end Slot

end TextTemplate

------------------------------------------------------------
-- Fitting Segments
------------------------------------------------------------

namespace TextTemplate

namespace Piece

/- Whether a segment of scanned bytes fits a piece. -/
def fits
    (piece : Piece)
    (data : ByteArray)
    (offset : Nat)
    (length : Nat) : Bool :=
  let stop := offset + length
  piece.content.complete data offset stop &&
    (piece.isAnonymous ||
      (Utf8.isBoundary data offset &&
        Utf8.isBoundary data stop))

end Piece

end TextTemplate
