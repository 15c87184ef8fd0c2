/-
  Intervals of integers whose ends are inclusive, exclusive
  or absent.

  An `Interval` may lack either end.  A `BoundedInterval`
  has both.  The ends keep the way in which they were
  written: `[3, 3]` and `(2, 4)` have the same values and
  are different intervals.

  Key definitions include:
    * `Interval`
    * `Interval.first`
    * `Interval.last`
    * `Interval.isEmpty`
    * `BoundedInterval`
    * `BoundedInterval.count`
-/

------------------------------------------------------------
-- Ends
------------------------------------------------------------

namespace TextTemplate

/- A lower end: the value itself, or all that follows it. -/
inductive LowBound where
  | inclusive (value : Int)
  | after (value : Int)
  deriving DecidableEq

namespace LowBound

/- The least integer that satisfies a lower end. -/
def first : LowBound → Int
  | .inclusive value => value
  | .after value => value + 1

end LowBound

/- An upper end: the value itself, or all that precedes it. -/
inductive HighBound where
  | inclusive (value : Int)
  | before (value : Int)
  deriving DecidableEq

namespace HighBound

/- The greatest integer that satisfies an upper end. -/
def last : HighBound → Int
  | .inclusive value => value
  | .before value => value - 1

end HighBound

end TextTemplate

------------------------------------------------------------
-- Bounded Intervals
------------------------------------------------------------

namespace TextTemplate

/- An interval with both ends. -/
structure BoundedInterval where
  low : LowBound
  high : HighBound
  deriving DecidableEq

namespace BoundedInterval

/- The least value, if there is any value. -/
def first
    (interval : BoundedInterval) : Int :=
  interval.low.first

/- The greatest value, if there is any value. -/
def last
    (interval : BoundedInterval) : Int :=
  interval.high.last

/- Whether an integer lies between the two ends. -/
def contains
    (interval : BoundedInterval)
    (value : Int) : Bool :=
  interval.first ≤ value && value ≤ interval.last

instance : Membership Int BoundedInterval where
  mem interval value := interval.contains value = true

instance
    (interval : BoundedInterval)
    (value : Int) :
    Decidable (value ∈ interval) :=
  inferInstanceAs
    (Decidable (interval.contains value = true))

/- Membership compares with the first and the last value. -/
theorem mem_iff
    {interval : BoundedInterval}
    {value : Int} :
    value ∈ interval ↔
      interval.first ≤ value ∧ value ≤ interval.last := by
  change interval.contains value = true ↔ _
  simp [contains]

/- Whether no integer lies between the two ends. -/
def isEmpty
    (interval : BoundedInterval) : Bool :=
  interval.last < interval.first

/- The number of values. -/
def count
    (interval : BoundedInterval) : Nat :=
  (interval.last - interval.first + 1).toNat

/- The integers from one value to another, both included. -/
def span
    (lowest highest : Int) : BoundedInterval :=
  ⟨.inclusive lowest, .inclusive highest⟩

/- Whether a nonempty interval holds every value of another. -/
def isWithin
    (inner outer : BoundedInterval) : Bool :=
  !outer.isEmpty &&
    (inner.isEmpty ||
      (outer.first ≤ inner.first &&
        inner.last ≤ outer.last))

end BoundedInterval

end TextTemplate

------------------------------------------------------------
-- Intervals
------------------------------------------------------------

namespace TextTemplate

/- An interval that may lack either end. -/
structure Interval where
  low : Option LowBound
  high : Option HighBound
  deriving DecidableEq

namespace Interval

/- The interval with one value. -/
def exact
    (value : Int) : Interval :=
  ⟨some (.inclusive value), some (.inclusive value)⟩

/- The interval of a value and all that follows it. -/
def atLeast
    (value : Int) : Interval :=
  ⟨some (.inclusive value), none⟩

/- The interval of a value and all that precedes it. -/
def atMost
    (value : Int) : Interval :=
  ⟨none, some (.inclusive value)⟩

/- The interval of all integers. -/
def all : Interval :=
  ⟨none, none⟩

/- The least integer allowed by the lower end. -/
def first
    (interval : Interval) : Option Int :=
  interval.low.map LowBound.first

/- The greatest integer allowed by the upper end. -/
def last
    (interval : Interval) : Option Int :=
  interval.high.map HighBound.last

/- Whether an end is absent. -/
def isUnbounded
    (interval : Interval) : Bool :=
  interval.low.isNone || interval.high.isNone

/-
  Whether both ends are present and no integer lies between
  them.
-/
def isEmpty
    (interval : Interval) : Bool :=
  match interval.first, interval.last with
  | some first, some last => last < first
  | _, _ => false

instance : Membership Int Interval where
  mem interval value :=
    (∀ first ∈ interval.first, first ≤ value) ∧
      (∀ last ∈ interval.last, value ≤ last)

/- Membership respects the ends that are present. -/
theorem mem_iff
    {interval : Interval}
    {value : Int} :
    value ∈ interval ↔
      (∀ first ∈ interval.first, first ≤ value) ∧
        (∀ last ∈ interval.last, value ≤ last) :=
  Iff.rfl

end Interval

namespace BoundedInterval

/- A bounded interval as an interval. -/
def toInterval
    (interval : BoundedInterval) : Interval :=
  ⟨some interval.low, some interval.high⟩

end BoundedInterval

end TextTemplate
