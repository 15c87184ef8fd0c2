import TextTemplate.Log.Event
import TextTemplate.Value.Json

/-
  Log files: one line of JSON for each event.

  A writer appends to a file until it is closed.  It refuses
  an event in which something stands in the way of writing.

  Key definitions include:
    * `Event.json`
    * `Event.obstacles`
    * `LogFile`
    * `WriteError`
    * `Writer`
    * `Writer.write`
    * `Journal`
-/

------------------------------------------------------------
-- Files
------------------------------------------------------------

namespace TextTemplate

/- An event in JSON. -/
def Event.json
    (event : Event) : String :=
  (Value.record event.entries).json

/- What stands in the way of writing an event, in order. -/
def Event.obstacles
    (event : Event) : List Obstacle :=
  (Value.record event.entries).obstacles

/- The lines of a log file. -/
structure LogFile where
  lines : Array String
  deriving DecidableEq

namespace LogFile

/- A file without lines. -/
def empty : LogFile :=
  ⟨#[]⟩

/- A file with one more line. -/
def append
    (file : LogFile)
    (line : String) : LogFile :=
  ⟨file.lines.push line⟩

end LogFile

end TextTemplate

------------------------------------------------------------
-- Writers
------------------------------------------------------------

namespace TextTemplate

/- Why an event is not written. -/
inductive WriteError where
  | obstructed (obstacle : Obstacle)
  | closed
  deriving DecidableEq

namespace WriteError

/- The wording for an event that is not written. -/
def message : WriteError → String
  | .obstructed obstacle => obstacle.message
  | .closed => "I/O operation on closed file."

end WriteError

/- A writer on a log file. -/
structure Writer where
  path : String
  closed : Bool
  deriving DecidableEq

namespace Writer

/- A writer on a file that was just opened. -/
def start
    (path : String) : Writer :=
  ⟨path, false⟩

/- The writer after it was closed. -/
def close
    (writer : Writer) : Writer :=
  { writer with closed := true }

/-
  Append an event to the file of a writer.  The line is made
  before it turns out whether the writer is closed.
-/
def write
    (writer : Writer)
    (file : LogFile)
    (event : Event) : Except WriteError LogFile :=
  match event.obstacles with
  | obstacle :: _ => .error (.obstructed obstacle)
  | [] =>
      if writer.closed then
        .error .closed
      else
        .ok (file.append event.json)

end Writer

end TextTemplate

------------------------------------------------------------
-- Journals
------------------------------------------------------------

namespace TextTemplate

/- A log file with the newest of the writers on it. -/
structure Journal where
  file : LogFile
  writer : Writer
  deriving DecidableEq

/- What can be done with a journal. -/
inductive JournalStep where
  | start
  | write (event : Event)
  | close

namespace Journal

/-
  A file that was never opened.  It has no lines, and its
  writer counts as closed.
-/
def unopened
    (path : String) : Journal :=
  ⟨.empty, (Writer.start path).close⟩

/- Do one step. -/
def step
    (journal : Journal) :
    JournalStep → Except WriteError Journal
  | .start =>
      .ok { journal with
        writer := .start journal.writer.path }
  | .write event => do
      let file ← journal.writer.write journal.file event
      return { journal with file := file }
  | .close =>
      .ok { journal with writer := journal.writer.close }

end Journal

end TextTemplate
