import TextTemplate.Interval.Basic

/-
  Intervals built from ends as they are written down.

  Any of three kinds of end may be given for either side.
  An interval cannot start before a value or stop after
  one, and a bounded interval needs both ends.

  Key definitions include:
    * `Endpoint`
    * `EndError`
    * `Interval.ofEnds`
    * `BoundedInterval.ofEnds`
-/

------------------------------------------------------------
-- Written Ends
------------------------------------------------------------

namespace TextTemplate

/- An end as it is written down, of either side. -/
inductive Endpoint where
  | inclusive (value : Int)
  | after (value : Int)
  | before (value : Int)
  deriving DecidableEq

namespace Endpoint

/- The lower end that is meant, unless it is an upper one. -/
def low? : Endpoint → Option LowBound
  | .inclusive value => some (.inclusive value)
  | .after value => some (.after value)
  | .before _ => none

/- The upper end that is meant, unless it is a lower one. -/
def high? : Endpoint → Option HighBound
  | .inclusive value => some (.inclusive value)
  | .before value => some (.before value)
  | .after _ => none

end Endpoint

namespace LowBound

/- A lower end as it is written down. -/
def endpoint : LowBound → Endpoint
  | .inclusive value => .inclusive value
  | .after value => .after value

end LowBound

namespace HighBound

/- An upper end as it is written down. -/
def endpoint : HighBound → Endpoint
  | .inclusive value => .inclusive value
  | .before value => .before value

end HighBound

/- Why two ends make no interval. -/
inductive EndError where
  | invalidLow (low : Endpoint)
  | invalidHigh (high : Endpoint)
  | missing
  deriving DecidableEq

end TextTemplate

------------------------------------------------------------
-- Construction
------------------------------------------------------------

namespace TextTemplate

namespace Interval

/-
  Build an interval from its ends.  The lower end is judged
  first.
-/
def ofEnds
    (low high : Option Endpoint) :
    Except EndError Interval := do
  let low ← low.mapM fun low =>
    match low.low? with
    | some bound => Except.ok bound
    | none => Except.error (EndError.invalidLow low)
  let high ← high.mapM fun high =>
    match high.high? with
    | some bound => Except.ok bound
    | none => Except.error (EndError.invalidHigh high)
  return ⟨low, high⟩

end Interval

namespace BoundedInterval

/-
  Build a bounded interval from its ends.  An absent end is
  noticed before a misplaced one.
-/
def ofEnds
    (low high : Option Endpoint) :
    Except EndError BoundedInterval :=
  match low, high with
  | some low, some high =>
      match low.low?, high.high? with
      | some first, some last => .ok ⟨first, last⟩
      | none, _ => .error (.invalidLow low)
      | some _, none => .error (.invalidHigh high)
  | _, _ => .error .missing

end BoundedInterval

end TextTemplate
