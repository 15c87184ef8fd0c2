import TextTemplate.Log.Event
import TextTemplate.Log.Level
import TextTemplate.Value.Display

/-
  Events as lines for people.

  A line has the name of the level in capitals, the event
  and its other values.  Events below a threshold have none.
  An event above it has none either, if it does not tell what
  happened or has a number of too many digits.

  Key definitions include:
    * `Line.hidden`
    * `Line.Failure`
    * `Line.ofEvent`
-/

------------------------------------------------------------
-- Lines
------------------------------------------------------------

namespace TextTemplate

namespace Line

/- The keys that are not listed among the other values. -/
def hidden : List Key :=
  ["event", "level", "timestamp"]

/- The number of characters that a level name takes. -/
def nameWidth : Nat :=
  9

/-
  The name of a level in capitals, filled up with spaces.
  Level names are words of ASCII letters.
-/
def heading
    (level : String) : String :=
  String.ofList
    (level.toUpper.toList.rightpad nameWidth ' ')

/- The other values of an event. -/
def others
    (event : Event) : List (Key × Value) :=
  event.entries.filter fun entry =>
    !hidden.contains entry.1

/- A key and its value. -/
def pair
    (entry : Key × Value) : String :=
  entry.1.display ++ "=" ++ entry.2.display

/- The other values of an event, with their keys. -/
def pairs
    (event : Event) : String :=
  String.intercalate " " ((others event).map pair)

/- Why an event has no line. -/
inductive Failure where
  | unnamed
  | longNumber
  deriving DecidableEq

namespace Failure

/- The wording for an event that has no line. -/
def message : Failure → String
  | .unnamed => "'event'"
  | .longNumber => Obstacle.longNumber.message

end Failure

/- Whether some value to be shown has too many digits. -/
def isLong
    (name : Value)
    (event : Event) : Bool :=
  (Value.obstacles name).contains .longNumber ||
    (Value.obstaclesOfEntries (others event)).contains
      .longNumber

/- The line of an event that is shown. -/
def shown
    (level : String)
    (event : Event) : Except Failure String :=
  match event.get? "event" with
  | some name =>
      if isLong name event then
        .error .longNumber
      else
        .ok (heading level ++ name.display ++ ": " ++
          pairs event)
  | none => .error .unnamed

/- The line of an event, if its level is high enough. -/
def ofEvent
    (threshold : Int)
    (level : String)
    (event : Event) : Except Failure (Option String) :=
  if Level.rank level < threshold then
    .ok none
  else
    (shown level event).map some

end Line

end TextTemplate
