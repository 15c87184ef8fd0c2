import Mathlib.Algebra.GroupWithZero.Nat
import TextTemplate.Search.Room
import TextTemplate.Text.Utf8

/-
  What it means to cut the input into segments.

  A piece admits a segment that has an allowed length and
  the right content, and that cuts no character if the piece
  is named.  A decomposition gives one admitted segment to
  each piece, from an offset to the end of the input.  No
  search is mentioned here.

  Key definitions include:
    * `Piece.Admits`
    * `Decomposes`
    * `Preferred`
-/

------------------------------------------------------------
-- Admitted Segments
------------------------------------------------------------

namespace TextTemplate

namespace Piece

/- The least length in view; no lower end means zero. -/
def leastLength
    (piece : Piece) : Int :=
  piece.length.first.getD 0

/- The greatest length in view of what remains. -/
def greatestLength
    (piece : Piece)
    (remaining : Int) : Int :=
  piece.length.last.getD remaining

/-
  Whether a piece admits a segment.  The lengths in view have
  to lie within what remains of the input.
-/
structure Admits
    (piece : Piece)
    (data : ByteArray)
    (offset length : Nat) : Prop where
  least_nonneg : 0 ≤ piece.leastLength
  least_le : piece.leastLength ≤ length
  le_greatest :
    (length : Int) ≤
      piece.greatestLength (data.size - offset)
  greatest_le :
    piece.greatestLength (data.size - offset) ≤
      data.size - offset
  accepts :
    piece.content.accepts
      (data.extract offset (offset + length)) = true
  uncut :
    piece.isAnonymous = false →
      Utf8.isBoundary data offset = true ∧
        Utf8.isBoundary data (offset + length) = true

/- An admitted segment ends within the input. -/
theorem Admits.le_size
    {piece : Piece}
    {data : ByteArray}
    {offset length : Nat}
    (hAdmits : piece.Admits data offset length) :
    offset + length ≤ data.size := by
  have hLength := hAdmits.le_greatest
  have hGreatest := hAdmits.greatest_le
  omega

end Piece

end TextTemplate

------------------------------------------------------------
-- Decompositions
------------------------------------------------------------

namespace TextTemplate

/-
  Whether lengths cut the input from an offset on into one
  admitted segment for each piece.
-/
structure Decomposes
    (data : ByteArray)
    (pieces : List Piece)
    (offset : Nat)
    (lengths : List Nat) : Prop where
  length_eq : lengths.length = pieces.length
  sum_eq : offset + lengths.sum = data.size
  admits :
    ∀ (index : Nat) (piece : Piece) (length : Nat),
      pieces[index]? = some piece →
        lengths[index]? = some length →
          piece.Admits data
            (offset + (lengths.take index).sum) length

/- No pieces cover no input. -/
theorem decomposes_nil
    {data : ByteArray}
    {offset : Nat}
    {lengths : List Nat} :
    Decomposes data [] offset lengths ↔
      lengths = [] ∧ offset = data.size := by
  constructor
  · intro hDecomposes
    obtain rfl : lengths = [] :=
      List.eq_nil_of_length_eq_zero hDecomposes.length_eq
    exact ⟨rfl, by simpa using hDecomposes.sum_eq⟩
  · rintro ⟨rfl, hOffset⟩
    exact ⟨rfl, by simpa using hOffset, by simp⟩

/-
  The first piece takes a segment, and the later pieces
  decompose what follows it.
-/
theorem decomposes_cons
    {data : ByteArray}
    {piece : Piece}
    {later : List Piece}
    {offset length : Nat}
    {lengths : List Nat} :
    Decomposes data (piece :: later) offset
        (length :: lengths) ↔
      piece.Admits data offset length ∧
        Decomposes data later (offset + length) lengths := by
  constructor
  · intro hDecomposes
    have hSum := hDecomposes.sum_eq
    rw [List.sum_cons] at hSum
    refine ⟨?_, ?_, by omega, ?_⟩
    · simpa using
        hDecomposes.admits 0 piece length rfl rfl
    · simpa using hDecomposes.length_eq
    · intro index other size hOther hSize
      have hAdmits :=
        hDecomposes.admits (index + 1) other size
          (by simpa using hOther) (by simpa using hSize)
      simpa [Nat.add_assoc] using hAdmits
  · rintro ⟨hAdmits, hLater⟩
    have hSum := hLater.sum_eq
    refine ⟨?_, ?_, ?_⟩
    · simpa using hLater.length_eq
    · rw [List.sum_cons]
      omega
    · intro index other size hOther hSize
      cases index with
      | zero =>
          simp only [List.getElem?_cons_zero,
            Option.some_inj] at hOther hSize
          subst hOther hSize
          simpa using hAdmits
      | succ index =>
          have hRest := hLater.admits index other size
            (by simpa using hOther) (by simpa using hSize)
          simpa [Nat.add_assoc] using hRest

/- Some pieces need at least one segment. -/
theorem not_decomposes_cons_nil
    {data : ByteArray}
    {piece : Piece}
    {later : List Piece}
    {offset : Nat} :
    ¬ Decomposes data (piece :: later) offset [] := by
  intro hDecomposes
  exact nomatch hDecomposes.length_eq

end TextTemplate

------------------------------------------------------------
-- Preferred Decompositions
------------------------------------------------------------

namespace TextTemplate

/- Whether lengths are not lexicographically greater. -/
def LexLe
    (lengths other : List Nat) : Prop :=
  lengths = other ∨ List.Lex (· < ·) lengths other

/- The first lengths that differ decide. -/
theorem lexLe_cons
    {length other : Nat}
    {lengths others : List Nat} :
    LexLe (length :: lengths) (other :: others) ↔
      length < other ∨
        length = other ∧ LexLe lengths others := by
  unfold LexLe
  rw [List.cons_lex_cons_iff, List.cons.injEq]
  constructor
  · intro hLe
    rcases hLe with ⟨hHead, hTail⟩ | hLess | ⟨hHead, hTail⟩
    · exact Or.inr ⟨hHead, Or.inl hTail⟩
    · exact Or.inl hLess
    · exact Or.inr ⟨hHead, Or.inr hTail⟩
  · intro hLe
    rcases hLe with hLess | ⟨hHead, hTail | hTail⟩
    · exact Or.inr (Or.inl hLess)
    · exact Or.inl ⟨hHead, hTail⟩
    · exact Or.inr (Or.inr ⟨hHead, hTail⟩)

theorem LexLe.antisymm
    {lengths other : List Nat}
    (hLe : LexLe lengths other)
    (hGe : LexLe other lengths) :
    lengths = other := by
  induction lengths generalizing other with
  | nil =>
      rcases hGe with hSame | hLess
      · exact hSame.symm
      · exact nomatch hLess
  | cons length lengths ih =>
      cases other with
      | nil =>
          rcases hLe with hSame | hLess
          · exact hSame
          · exact nomatch hLess
      | cons first others =>
          rw [lexLe_cons] at hLe hGe
          rcases hLe with hLess | ⟨hHead, hTail⟩
          · omega
          · rcases hGe with hGreater | ⟨_, hOthers⟩
            · omega
            · rw [hHead, ih hTail hOthers]

/-
  The preferred decomposition is the greatest one in the
  lexicographic order: it has the longest possible segment
  wherever another decomposition first differs.
-/
structure Preferred
    (data : ByteArray)
    (pieces : List Piece)
    (offset : Nat)
    (lengths : List Nat) : Prop where
  decomposes : Decomposes data pieces offset lengths
  greatest :
    ∀ other, Decomposes data pieces offset other →
      LexLe other lengths

/- There is at most one preferred decomposition. -/
theorem Preferred.unique
    {data : ByteArray}
    {pieces : List Piece}
    {offset : Nat}
    {lengths other : List Nat}
    (hLengths : Preferred data pieces offset lengths)
    (hOther : Preferred data pieces offset other) :
    lengths = other :=
  LexLe.antisymm
    (hOther.greatest lengths hLengths.decomposes)
    (hLengths.greatest other hOther.decomposes)

end TextTemplate
