import TextTemplate.Interval.Endpoint
import TextTemplate.Interval.Clamp
import TextTemplate.Interval.Walk

/-
  How intervals, and the errors about them, are shown.

  The short form is the mathematical one, such as `[0, 5)`.
  The long form names the kind of the interval and of each
  end.

  Key definitions include:
    * `Interval.display`
    * `Interval.describe`
    * `BoundedInterval.describe`
    * `EndError.message`
    * `OutOfBounds.message`
-/

------------------------------------------------------------
-- Ends
------------------------------------------------------------

namespace TextTemplate

namespace Endpoint

/- An end in the long form. -/
def describe : Endpoint → String
  | .inclusive value => "At(" ++ toString value ++ ")"
  | .after value => "After(" ++ toString value ++ ")"
  | .before value => "Before(" ++ toString value ++ ")"

/- An end or its absence in the long form. -/
def describeOptional : Option Endpoint → String
  | some endpoint => endpoint.describe
  | none => "UNBOUND"

end Endpoint

end TextTemplate

------------------------------------------------------------
-- Intervals
------------------------------------------------------------

namespace TextTemplate

namespace Interval

/- The opening half of the short form. -/
def displayLow : Option LowBound → String
  | none => "(-inf"
  | some (.after value) => "(" ++ toString value
  | some (.inclusive value) => "[" ++ toString value

/- The closing half of the short form. -/
def displayHigh : Option HighBound → String
  | none => "+inf)"
  | some (.before value) => toString value ++ ")"
  | some (.inclusive value) => toString value ++ "]"

/- An interval in the short form. -/
def display
    (interval : Interval) : String :=
  displayLow interval.low ++ ", " ++
    displayHigh interval.high

/- The two ends in the long form. -/
def describeEnds
    (interval : Interval) : String :=
  "(" ++
    Endpoint.describeOptional
      (interval.low.map LowBound.endpoint) ++
    ", " ++
    Endpoint.describeOptional
      (interval.high.map HighBound.endpoint) ++
    ")"

/- An interval in the long form. -/
def describe
    (interval : Interval) : String :=
  "Interval" ++ interval.describeEnds

end Interval

namespace BoundedInterval

/- A bounded interval in the short form. -/
def display
    (interval : BoundedInterval) : String :=
  interval.toInterval.display

/- A bounded interval in the long form. -/
def describe
    (interval : BoundedInterval) : String :=
  "BoundedInterval" ++ interval.toInterval.describeEnds

end BoundedInterval

end TextTemplate

------------------------------------------------------------
-- Errors
------------------------------------------------------------

namespace TextTemplate

/- The wording for ends that make no interval. -/
def EndError.message : EndError → String
  | .invalidLow low => "invalid low end: " ++ low.describe
  | .invalidHigh high =>
      "invalid high end: " ++ high.describe
  | .missing => "bounded interval needs concrete ends"

/- The wording for an interval that reaches out of a range. -/
def OutOfBounds.message
    {α : Type}
    (describe : α → String)
    (error : OutOfBounds α) : String :=
  "(" ++ describe error.interval ++ ", " ++
    toString error.lowest ++ ", " ++
    toString error.highest ++ ")"

/- A step of a walk that is no step but an integer. -/
structure StrayStep where
  value : Int
  deriving DecidableEq

/- The wording for a step of a walk that is none. -/
def StrayStep.message
    (error : StrayStep) : String :=
  "walk_until expects Continue or Stop, got " ++
    toString error.value

/- The wording for a number of values that is no length. -/
def LengthOverflow.message
    (_error : LengthOverflow) : String :=
  "cannot fit 'int' into an index-sized integer"

end TextTemplate
