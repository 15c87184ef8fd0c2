import TextTemplate.Piece

/-
  How much input the later pieces of a template can take.

  Each piece is put into a slot together with the least and
  the greatest number of bytes that the pieces after it can
  cover.

  Key definitions include:
    * `Room`
    * `Room.ofPieces`
    * `Slot`
    * `Slot.ofPieces`
-/

------------------------------------------------------------
-- Room
------------------------------------------------------------

namespace TextTemplate

/-
  The least and the greatest number of bytes that a list of
  pieces can cover; no greatest number means no bound.
-/
structure Room where
  least : Nat
  greatest : Option Int
  deriving DecidableEq

namespace Room

/- The room of no pieces. -/
def zero : Room :=
  ⟨0, some 0⟩

/- The room of some pieces and one piece more. -/
def extend
    (piece : Piece)
    (room : Room) : Room where
  least := room.least + (piece.length.first.getD 0).toNat
  greatest :=
    match piece.length.last, room.greatest with
    | some last, some greatest => some (greatest + last)
    | _, _ => none

/- The room of a list of pieces. -/
def ofPieces
    (pieces : List Piece) : Room :=
  pieces.foldr extend zero

end Room

end TextTemplate

------------------------------------------------------------
-- Slots
------------------------------------------------------------

namespace TextTemplate

/- A piece and the room of the pieces after it. -/
structure Slot where
  piece : Piece
  later : Room
  deriving DecidableEq

namespace Slot

/- Put one more piece in front of slots with a known room. -/
def push
    (piece : Piece)
    (state : List Slot × Room) : List Slot × Room :=
  (⟨piece, state.2⟩ :: state.1, .extend piece state.2)

/- The slots of a list of pieces. -/
def ofPieces
    (pieces : List Piece) : List Slot :=
  (pieces.foldr push ([], .zero)).1

/- The room of all pieces is found on the way. -/
theorem foldr_push_room
    (pieces : List Piece) :
    (pieces.foldr push ([], .zero)).2 =
      Room.ofPieces pieces := by
  induction pieces with
  | nil => rfl
  | cons piece later ih =>
      simp [push, Room.ofPieces, ih]

/- There are no slots for no pieces. -/
theorem ofPieces_nil :
    ofPieces [] = [] :=
  rfl

/- The first slot knows the room of the later pieces. -/
theorem ofPieces_cons
    (piece : Piece)
    (later : List Piece) :
    ofPieces (piece :: later) =
      ⟨piece, Room.ofPieces later⟩ :: ofPieces later := by
  simp [ofPieces, push, foldr_push_room]

end Slot

end TextTemplate
