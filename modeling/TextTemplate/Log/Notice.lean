import TextTemplate.Log.Event
import TextTemplate.Log.Level
import TextTemplate.Template.Basic

/-
  What is reported while templates are read and inputs are
  matched, and the events that report it.

  Key definitions include:
    * `Notice`
    * `Notice.level`
    * `Notice.event`
-/

------------------------------------------------------------
-- Notices
------------------------------------------------------------

namespace TextTemplate

/- How many pieces and how many bytes a match is about. -/
structure Extent where
  pieces : Nat
  size : Nat
  deriving DecidableEq

/- Something worth reporting. -/
inductive Notice where
  | partRead (part : Part)
  | templateRead (source : String) (count : Nat)
  | matchBegun (extent : Extent) (budget : Option Int)
  | matchFound
      (extent : Extent)
      (steps : Nat)
      (lengths : List Nat)
  | matchFailed (extent : Extent) (steps : Nat)
  | matchExhausted (extent : Extent) (steps : Nat)
  | runStarted (source : String)
  | templateRefused (error : TemplateError)
  | inputRefused (input : String)
  | runFinished (status : Nat)
  deriving DecidableEq

namespace Notice

/- The name of the event that reports a notice. -/
def name : Notice → String
  | .partRead _ => "parse.token"
  | .templateRead _ _ => "parse.done"
  | .matchBegun _ _ => "match.begin"
  | .matchFound _ _ _ => "match.success"
  | .matchFailed _ _ => "match.fail"
  | .matchExhausted _ _ => "match.exhausted"
  | .runStarted _ => "app.start"
  | .templateRefused _ => "app.template_error"
  | .inputRefused _ => "app.no_match"
  | .runFinished _ => "app.finish"

/- The level of the event that reports a notice. -/
def level : Notice → String
  | .partRead _ => "debug"
  | .templateRead _ _ => "debug"
  | .matchBegun _ _ => "debug"
  | .matchFound _ _ _ => "debug"
  | .matchFailed _ _ => "debug"
  | .matchExhausted _ _ => "warning"
  | .runStarted _ => "info"
  | .templateRefused _ => "error"
  | .inputRefused _ => "info"
  | .runFinished _ => "info"

end Notice

end TextTemplate

------------------------------------------------------------
-- Events
------------------------------------------------------------

namespace TextTemplate

namespace Notice

open Event (entry)

/- The values that describe an extent. -/
def extentPairs
    (extent : Extent) : List (Key × Value) :=
  [entry "specs" (.count extent.pieces),
    entry "size" (.count extent.size)]

/- The values of a notice, apart from its name and level. -/
def pairs : Notice → List (Key × Value)
  | .partRead part =>
      [entry "segment" (.text part.segment),
        entry "spec" (.text part.piece.describe)]
  | .templateRead source number =>
      [entry "template" (.text source),
        entry "count" (.count number)]
  | .matchBegun extent budget =>
      extentPairs extent ++
        [entry "max_steps" (.ofOption budget)]
  | .matchFound extent steps lengths =>
      extentPairs extent ++
        [entry "steps" (.count steps),
          entry "lengths"
            (.list (lengths.map Value.count))]
  | .matchFailed extent steps =>
      extentPairs extent ++ [entry "steps" (.count steps)]
  | .matchExhausted extent steps =>
      extentPairs extent ++ [entry "steps" (.count steps)]
  | .runStarted source =>
      [entry "template" (.text source)]
  | .templateRefused error =>
      [entry "error" (.text error.kind.name),
        entry "text" (.text error.text)]
  | .inputRefused input =>
      [entry "input" (.text input)]
  | .runFinished status =>
      [entry "status" (.count status)]

/- The event that reports a notice. -/
def event
    (notice : Notice) : Event :=
  ⟨notice.pairs ++
    [entry "event" (.text notice.name),
      entry "level" (.text notice.level)]⟩

end Notice

end TextTemplate
