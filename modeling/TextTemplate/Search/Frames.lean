import TextTemplate.Search.Basic

/-
  The search with a stack of its own.

  A frame is a place whose candidates are being tried.  The
  topmost frame tries its next candidate: it is given up, it
  ends the search, or a frame for the next place is put on
  top.  A frame without candidates is taken off, and its
  place is remembered.

  Key definitions include:
    * `Frame`
    * `Machine`
    * `Stage`
    * `Machine.step`
    * `Search.launch`
-/

------------------------------------------------------------
-- Frames
------------------------------------------------------------

namespace TextTemplate

/-
  A place whose candidates are being tried for a slot.  The
  candidates that are left are consecutive lengths, tried
  from the greatest on, and one of those before is chosen.
-/
structure Frame where
  slot : Slot
  later : List Slot
  place : Place
  shortest : Nat
  left : Nat
  chosen : Nat

namespace Frame

/- The frame of a place before any candidate is tried. -/
def start
    (slot : Slot)
    (later : List Slot)
    (place : Place)
    (range : LengthRange) : Frame :=
  ⟨slot, later, place, range.shortest, range.count, 0⟩

/- The frame with one candidate less. -/
def drop
    (frame : Frame) : Frame :=
  { frame with left := frame.left - 1 }

/- The candidate to be tried next. -/
def next
    (frame : Frame) : Nat :=
  frame.shortest + (frame.left - 1)

/- The place after the candidate to be tried next. -/
def target
    (frame : Frame) : Place :=
  ⟨frame.place.index + 1, frame.place.offset + frame.next⟩

/- The lengths chosen by frames, from the lowest frame on. -/
def chosenBy
    (frames : List Frame) : List Nat :=
  frames.reverse.map Frame.chosen

end Frame

end TextTemplate

------------------------------------------------------------
-- Machines
------------------------------------------------------------

namespace TextTemplate

/- A stack of frames, the topmost first, and the progress. -/
structure Machine where
  frames : List Frame
  progress : Progress

/- A search with a stack runs, or has ended. -/
inductive Stage where
  | running (machine : Machine)
  | ended (outcome : Outcome) (progress : Progress)

namespace Machine

/- What comes of a candidate that fits. -/
def enter
    (data : ByteArray)
    (frame : Frame)
    (below : List Frame)
    (progress : Progress) : Stage :=
  match frame.later with
  | [] =>
      if frame.target.offset = data.size then
        .ended
          (.found (Frame.chosenBy below ++ [frame.next]))
          progress
      else
        .running ⟨frame.drop :: below, progress⟩
  | slot :: later =>
      if progress.failed.contains frame.target then
        .running ⟨frame.drop :: below, progress⟩
      else
        match slot.candidates data frame.target.offset with
        | none =>
            .running ⟨frame.drop :: below,
              progress.fail frame.target⟩
        | some range =>
            .running
              ⟨.start slot later frame.target range ::
                { frame.drop with chosen := frame.next } ::
                  below,
                progress⟩

/- Try the next candidate of the topmost frame. -/
def step
    (data : ByteArray)
    (budget : Option Int)
    (machine : Machine) : Stage :=
  match machine.frames with
  | [] => .ended .stuck machine.progress
  | frame :: below =>
      if frame.left = 0 then
        .running
          ⟨below, machine.progress.fail frame.place⟩
      else
        let progress := machine.progress.advance
        if progress.exceeds budget then
          .ended .exhausted progress
        else if
          frame.slot.piece.fits data frame.place.offset
            frame.next
        then
          enter data frame below progress
        else
          .running ⟨frame.drop :: below, progress⟩

end Machine

end TextTemplate

------------------------------------------------------------
-- Beginnings
------------------------------------------------------------

namespace TextTemplate

namespace Search

/- Begin a search with a frame for the start of the input. -/
def launch
    (search : Search) : Stage :=
  match search.slots with
  | [] =>
      .ended
        (if search.data.size = 0 then .found [] else .stuck)
        search.progress
  | slot :: later =>
      match slot.candidates search.data 0 with
      | none =>
          .ended .stuck (search.progress.fail ⟨0, 0⟩)
      | some range =>
          .running ⟨[.start slot later ⟨0, 0⟩ range],
            search.progress⟩

end Search

end TextTemplate
