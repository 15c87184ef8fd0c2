import TextTemplate.CommandLine.Transcript
import TextTemplate.Log.Dispatcher
import TextTemplate.Log.File
import TextTemplate.Log.Line

/-
  Successive runs that share log files and the state of the
  logging.

  Key definitions include:
    * `Session`
    * `Session.configure`
    * `Session.log`
    * `Session.play`
    * `Session.release`
    * `Session.perform`
    * `Session.performAny`
    * `Session.run`
    * `Session.matchAny`
-/

------------------------------------------------------------
-- Log Files
------------------------------------------------------------

namespace TextTemplate

/- The log files by their paths. -/
structure Files where
  entries : List (String × LogFile)
  deriving DecidableEq

namespace Files

/- The file at a path. -/
def get?
    (files : Files)
    (path : String) : Option LogFile :=
  files.entries.lookup path

/- Put a file at a path, over the one that was there. -/
def set
    (files : Files)
    (path : String)
    (file : LogFile) : Files :=
  ⟨(path, file) ::
    files.entries.filter fun entry => entry.1 != path⟩

/- Make an empty file at a path where there is none. -/
def touch
    (files : Files)
    (path : String) : Files :=
  match files.get? path with
  | some _ => files
  | none => files.set path .empty

end Files

end TextTemplate

------------------------------------------------------------
-- Sessions
------------------------------------------------------------

namespace TextTemplate

/-
  The state that runs share: the log files, all writers that
  were opened, the handlers of events, which are writers by
  their number, the least rank that is shown, and the reports
  about handlers that failed.
-/
structure Session where
  files : Files
  writers : List Writer
  dispatcher : Dispatcher Nat
  threshold : Int
  reports : List String

/- A line that a run shows. -/
inductive Shown where
  | output (line : String)
  | message (line : String)
  deriving DecidableEq

namespace Shown

/- The line, if it is one of output. -/
def output? : Shown → Option String
  | .output line => some line
  | .message _ => none

/- The line, if it is one of messages. -/
def message? : Shown → Option String
  | .output _ => none
  | .message line => some line

end Shown

/- What can be seen of a run. -/
structure RunResult where
  shown : List Shown
  ending : Ending
  deriving DecidableEq

namespace RunResult

/- The lines of output. -/
def output
    (result : RunResult) : List String :=
  result.shown.filterMap Shown.output?

/- The lines of messages. -/
def messages
    (result : RunResult) : List String :=
  result.shown.filterMap Shown.message?

end RunResult

namespace Session

/- The state before the first run. -/
def start : Session :=
  ⟨⟨[]⟩, [], .empty, Level.threshold 0, []⟩

end Session

end TextTemplate

------------------------------------------------------------
-- Writers
------------------------------------------------------------

namespace TextTemplate

namespace Session

/-
  Open a writer on a file and register it.  Its number is
  the number of writers before it.
-/
def openWriter
    (session : Session)
    (path : String) : Session :=
  { session with
    files := session.files.touch path
    writers := session.writers ++ [.start path]
    dispatcher :=
      session.dispatcher.add session.writers.length }

/- Write an event with the writer of a number. -/
def write
    (session : Session)
    (event : Event)
    (number : Nat) : Session :=
  match session.writers[number]? with
  | none => session
  | some writer =>
      let file :=
        (session.files.get? writer.path).getD .empty
      match writer.write file event with
      | .ok file =>
          { session with
            files := session.files.set writer.path file }
      | .error _ => session

/- Remove a writer from the handlers and close it. -/
def closeWriter
    (session : Session)
    (number : Nat) : Session :=
  { session with
    writers := session.writers.modify number Writer.close
    dispatcher :=
      match session.dispatcher.remove number with
      | .ok dispatcher => dispatcher
      | .error _ => session.dispatcher }

end Session

end TextTemplate

------------------------------------------------------------
-- Effects
------------------------------------------------------------

namespace TextTemplate

namespace Session

/- Whether the writer of a number fails with an event. -/
def refuses
    (session : Session)
    (event : Event)
    (number : Nat) : Bool :=
  match session.writers[number]? with
  | none => false
  | some writer => !(writer.write .empty event).isOk

/-
  A writer may fail.  It changes neither its event nor the
  handlers.
-/
def react
    (session : Session)
    (_call : Nat)
    (number : Nat)
    (_level : String)
    (event : Event) : Reaction Nat :=
  ⟨session.refuses event number, event, false, []⟩

/-
  The report about a handler that failed, without the trace
  that follows it.
-/
def reportOf
    (number : Nat) : String :=
  "exception thrown by handler " ++ toString number

/-
  Hand an event to the writers that are registered.  Those
  that fail are reported.
-/
def log
    (session : Session)
    (level : String)
    (event : Event) : Emission Nat × Session :=
  let emission :=
    session.dispatcher.emit session.react level event
  let handed :=
    { session with
      dispatcher := emission.dispatcher
      reports :=
        session.reports ++ emission.failed.map reportOf }
  (emission,
    emission.calls.foldl
      (fun session call =>
        session.write call.event call.handler)
      handed)

/-
  What comes of effects: the lines that are shown, why the
  next event could not be shown, if so, and the session
  afterwards.
-/
structure Played where
  shown : List Shown
  failure : Option Line.Failure
  session : Session

/-
  Carry out an effect.  A notice is logged first, and then
  the event that was passed on is shown.
-/
def carryOut
    (session : Session) : Effect → Played
  | .notice notice =>
      let logged := session.log notice.level notice.event
      match Line.ofEvent session.threshold notice.level
        logged.1.event
      with
      | .ok line =>
          ⟨(line.map Shown.message).toList, none, logged.2⟩
      | .error failure => ⟨[], some failure, logged.2⟩
  | .output line => ⟨[.output line], none, session⟩
  | .message line => ⟨[.message line], none, session⟩

/-
  Carry out effects one after another, up to an event that
  cannot be shown.
-/
def play
    (session : Session) : List Effect → Played
  | [] => ⟨[], none, session⟩
  | effect :: later =>
      let first := session.carryOut effect
      match first.failure with
      | some _ => first
      | none =>
          let rest := first.session.play later
          { rest with shown := first.shown ++ rest.shown }

end Session

end TextTemplate

------------------------------------------------------------
-- Runs
------------------------------------------------------------

namespace TextTemplate

namespace Session

/-
  Set up the logging for a run.  The number is that of the
  writer that was opened, if any.
-/
def configure
    (session : Session)
    (options : Options) : Option Nat × Session :=
  let shown :=
    { session with
      threshold := Level.threshold options.verbosity }
  match options.logFile with
  | none => (none, shown)
  | some path =>
      (some session.writers.length, shown.openWriter path)

/- Give up the writer of a run, if there is one. -/
def release
    (session : Session) : Option Nat → Session
  | none => session
  | some number => session.closeWriter number

/- How a run ends whose effects were carried out. -/
def endingOf
    (transcript : Transcript)
    (played : Played) : Ending :=
  match played.failure with
  | some failure => .unhandled (.unshown failure)
  | none => transcript.ending

/- Set up the logging and carry out a transcript. -/
def conduct
    (session : Session)
    (options : Options)
    (transcript : Transcript) : RunResult × Session :=
  let (writer, session) := session.configure options
  let played := session.play transcript.effects
  (⟨played.shown, endingOf transcript played⟩,
    played.session.release writer)

/- Do what the options of a run ask for. -/
def perform
    (session : Session)
    (options : Options) : RunResult × Session :=
  session.conduct options
    (.ofRun options.template options.inputs
      options.maxSteps)

/-
  Do what the options of a run ask for, with any texts in
  place of their inputs.
-/
def performAny
    (session : Session)
    (options : Options)
    (inputs : List LooseText) : RunResult × Session :=
  session.conduct options
    (.ofAny options.template inputs options.maxSteps)

/- The message about a variable that is not a setting. -/
def settingMessage
    (error : SettingError) : String :=
  Usage.programName ++ ": invalid setting " ++
    error.variableName ++ "=" ++ Quoted.text error.raw

/- A run that shows some messages and does nothing else. -/
def refuse
    (messages : List String) : RunResult :=
  ⟨messages.map .message,
    .status Transcript.errorStatus⟩

/- Run the program with some arguments. -/
def run
    (session : Session)
    (environment : Environment)
    (arguments : List String) : RunResult × Session :=
  match Settings.read environment with
  | .error error =>
      (refuse [settingMessage error], session)
  | .ok settings =>
      match Options.read settings arguments with
      | .error .help =>
          (⟨Usage.help.map .output,
            .status Transcript.okStatus⟩, session)
      | .error (.usage error) =>
          (refuse (Usage.complaint error), session)
      | .ok options => session.perform options

/-
  Read a template and match any text against it, with the
  events handled as the session says.
-/
def matchAny
    (session : Session)
    (source : String)
    (input : LooseText)
    (budget : Option Int) :
    Except Failure Fields × Session :=
  let matched := Match.any source input budget
  let played :=
    session.play (matched.notices.map Effect.notice)
  match played.failure with
  | some failure =>
      (.error (.unshown failure), played.session)
  | none => (matched.result, played.session)

end Session

end TextTemplate
