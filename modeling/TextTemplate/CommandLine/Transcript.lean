import TextTemplate.CommandLine.Options
import TextTemplate.CommandLine.Usage
import TextTemplate.Match
import TextTemplate.Value.Json

/-
  What a run does, step by step, apart from where its
  events go.

  A transcript is the list of the effects of a run, in
  order, and how the run ends.  It depends on the template,
  the inputs and the budget alone.

  Key definitions include:
    * `Effect`
    * `Ending`
    * `Transcript`
    * `Transcript.ofInputs`
    * `Transcript.ofAny`
    * `Transcript.ofRun`
-/

------------------------------------------------------------
-- Effects
------------------------------------------------------------

namespace TextTemplate

/-
  An effect of a run: a notice, a line of output, or a line
  of messages.
-/
inductive Effect where
  | notice (notice : Notice)
  | output (line : String)
  | message (line : String)
  deriving DecidableEq

/-
  How a run ends: with an exit status, or with a failure
  that it does not handle.
-/
inductive Ending where
  | status (code : Nat)
  | unhandled (failure : Failure)
  deriving DecidableEq

/- The effects of a run and its ending. -/
structure Transcript where
  effects : List Effect
  ending : Ending
  deriving DecidableEq

namespace Transcript

/- Put effects before those of a transcript. -/
def prepend
    (effects : List Effect)
    (later : Transcript) : Transcript :=
  ⟨effects ++ later.effects, later.ending⟩

/- The status of a run in which all inputs matched. -/
def okStatus : Nat :=
  0

/- The status of a run in which an input did not match. -/
def noMatchStatus : Nat :=
  1

/- The status of a run that was broken off. -/
def errorStatus : Nat :=
  2

end Transcript

end TextTemplate

------------------------------------------------------------
-- Inputs
------------------------------------------------------------

namespace TextTemplate

/- Fields as a line of output. -/
def Fields.line
    (fields : Fields) : String :=
  (Value.record (fields.entries.map fun entry =>
    (entry.1, .text entry.2))).json

namespace Transcript

/- The message about a search that ran out of budget. -/
def exhaustedMessage
    (steps : Nat) : String :=
  Usage.programName ++ ": search exhausted after " ++
    toString steps ++ " steps"

/-
  Match inputs one after another.  The status is the one of
  the inputs so far.  An input without an encoding is not
  handled.
-/
def ofInputs
    (template : Template)
    (budget : Option Int) :
    Nat → List LooseText → Transcript
  | status, [] =>
      ⟨[.notice (.runFinished status)], .status status⟩
  | status, input :: later =>
      match input.toString? with
      | none => ⟨[], .unhandled (.unencodable input)⟩
      | some text =>
          let matched := template.matchAll text budget
          let begun := matched.notices.map Effect.notice
          match matched.result with
          | .ok fields =>
              (ofInputs template budget status
                later).prepend
                (begun ++ [.output fields.line])
          | .error (.doesNotMatch _) =>
              (ofInputs template budget noMatchStatus
                later).prepend
                (begun ++
                  [.notice (.inputRefused text),
                    .output Value.null.json])
          | .error (.exhausted steps) =>
              ⟨begun ++ [.message (exhaustedMessage steps)],
                .status errorStatus⟩
          | .error .notText =>
              ⟨begun, .unhandled (.unmatched .notText)⟩

end Transcript

end TextTemplate

------------------------------------------------------------
-- Runs
------------------------------------------------------------

namespace TextTemplate

namespace Transcript

/- The message about a template that is malformed. -/
def malformedMessage
    (error : TemplateError) : String :=
  Usage.programName ++ ": " ++ error.kind.name ++ ": " ++
    Quoted.text error.text

/- Read a template and match any texts against it. -/
def ofAny
    (source : String)
    (inputs : List LooseText)
    (budget : Option Int) : Transcript :=
  let parsed := Template.parseTraced source
  let begun :=
    (Notice.runStarted source :: parsed.notices).map
      Effect.notice
  match parsed.result with
  | .ok template =>
      (ofInputs template budget okStatus inputs).prepend
        begun
  | .error (.malformed error) =>
      ⟨begun ++
          [.notice (.templateRefused error),
            .message (malformedMessage error)],
        .status errorStatus⟩
  | .error error => ⟨begun, .unhandled (.unread error)⟩

/- Read a template and match inputs against it. -/
def ofRun
    (source : String)
    (inputs : List String)
    (budget : Option Int) : Transcript :=
  ofAny source (inputs.map .ofString) budget

end Transcript

end TextTemplate
