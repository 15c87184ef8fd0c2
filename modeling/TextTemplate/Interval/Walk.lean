import TextTemplate.Interval.Basic

/-
  The values of a bounded interval, listed and walked.

  Listings of a few values and walks that stop early take
  time for the values they visit only, so the interval may
  be of any size.

  Key definitions include:
    * `BoundedInterval.toList`
    * `BoundedInterval.descending`
    * `BoundedInterval.take`
    * `BoundedInterval.length`
    * `BoundedInterval.walk`
    * `BoundedInterval.walkUntil`
-/

------------------------------------------------------------
-- Listings
------------------------------------------------------------

namespace TextTemplate

namespace BoundedInterval

/- The first values, in ascending order. -/
def take
    (interval : BoundedInterval)
    (amount : Nat) : List Int :=
  (List.range (min amount interval.count)).map
    fun (step : Nat) => interval.first + step

/- The last values, in descending order. -/
def takeDescending
    (interval : BoundedInterval)
    (amount : Nat) : List Int :=
  (List.range (min amount interval.count)).map
    fun (step : Nat) => interval.last - step

/- All values, in ascending order. -/
def toList
    (interval : BoundedInterval) : List Int :=
  interval.take interval.count

/- All values, in descending order. -/
def descending
    (interval : BoundedInterval) : List Int :=
  interval.takeDescending interval.count

/- The results of a function on all values, in order. -/
def map
    {β : Type}
    (interval : BoundedInterval)
    (f : Int → β) : List β :=
  interval.toList.map f

end BoundedInterval

end TextTemplate

------------------------------------------------------------
-- Lengths
------------------------------------------------------------

namespace TextTemplate

/- A number of values too large to be a length. -/
structure LengthOverflow where
  count : Nat
  deriving DecidableEq

namespace BoundedInterval

/- The greatest length that can be given. -/
def maxLength : Nat :=
  Nat.pow 2 63 - 1

/- The number of values, if it can be given as a length. -/
def length
    (interval : BoundedInterval) :
    Except LengthOverflow Nat :=
  if interval.count ≤ maxLength then
    .ok interval.count
  else
    .error ⟨interval.count⟩

/- All values, if their number can be given as a length. -/
def listed
    (interval : BoundedInterval) :
    Except LengthOverflow (List Int) := do
  let _ ← interval.length
  return interval.toList

end BoundedInterval

end TextTemplate

------------------------------------------------------------
-- Walks
------------------------------------------------------------

namespace TextTemplate

/-
  What a walk does after a value: go on, come to an end, or
  give up.
-/
inductive Step (σ ε : Type) where
  | next (state : σ)
  | done (state : σ)
  | fault (error : ε)

namespace BoundedInterval

/- Walk a number of consecutive integers. -/
def walkFrom
    {σ : Type}
    (step : σ → Int → σ)
    (state : σ)
    (value : Int) : Nat → σ
  | 0 => state
  | remaining + 1 =>
      walkFrom step (step state value) (value + 1)
        remaining

/- Walk all values in ascending order. -/
def walk
    {σ : Type}
    (interval : BoundedInterval)
    (state : σ)
    (step : σ → Int → σ) : σ :=
  walkFrom step state interval.first interval.count

/- Walk consecutive integers until a step ends the walk. -/
def walkUntilFrom
    {σ ε : Type}
    (step : σ → Int → Step σ ε)
    (state : σ)
    (value : Int) : Nat → Except ε σ
  | 0 => .ok state
  | remaining + 1 =>
      match step state value with
      | .next state =>
          walkUntilFrom step state (value + 1) remaining
      | .done state => .ok state
      | .fault error => .error error

/-
  Walk the values in ascending order until a step ends the
  walk.
-/
def walkUntil
    {σ ε : Type}
    (interval : BoundedInterval)
    (state : σ)
    (step : σ → Int → Step σ ε) : Except ε σ :=
  walkUntilFrom step state interval.first interval.count

end BoundedInterval

end TextTemplate
