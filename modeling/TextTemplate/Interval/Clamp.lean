import TextTemplate.Interval.Basic

/-
  Fitting an interval into a range of allowed values.

  An absent end is replaced by the end of the range.  An end
  that is present stays as it is, and the whole interval is
  refused when it then reaches out of the range.

  Key definitions include:
    * `OutOfBounds`
    * `Interval.clamped`
    * `Interval.boundedWithin`
-/

------------------------------------------------------------
-- Clamping
------------------------------------------------------------

namespace TextTemplate

/- An interval that reaches out of a range. -/
structure OutOfBounds (α : Type) where
  interval : α
  lowest : Int
  highest : Int
  deriving DecidableEq

namespace Interval

/- Replace each absent end by the end of a range. -/
def clamped
    (interval : Interval)
    (lowest highest : Int) : BoundedInterval :=
  ⟨interval.low.getD (.inclusive lowest),
    interval.high.getD (.inclusive highest)⟩

/- The clamped interval, if it keeps within the range. -/
def boundedWithin
    (interval : Interval)
    (lowest highest : Int) :
    Except (OutOfBounds Interval) BoundedInterval :=
  let clamped := interval.clamped lowest highest
  if clamped.isWithin (.span lowest highest) then
    .ok clamped
  else
    .error ⟨interval, lowest, highest⟩

end Interval

namespace BoundedInterval

/- The interval itself, if it keeps within the range. -/
def boundedWithin
    (interval : BoundedInterval)
    (lowest highest : Int) :
    Except (OutOfBounds BoundedInterval)
      BoundedInterval :=
  if interval.isWithin (.span lowest highest) then
    .ok interval
  else
    .error ⟨interval, lowest, highest⟩

end BoundedInterval

end TextTemplate
