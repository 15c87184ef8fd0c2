import TextTemplate.CommandLine.Flag
import TextTemplate.Settings

/-
  Reading the arguments of a run.

  The template and the inputs are the arguments that are
  neither options nor values of options.  The inputs have
  to stand together.

  Key definitions include:
    * `Options`
    * `Stop`
    * `Draft`
    * `Reader`
    * `Options.read`
-/

------------------------------------------------------------
-- Options of a Run
------------------------------------------------------------

namespace TextTemplate

/- What a run is asked to do. -/
structure Options where
  verbosity : Nat
  logFile : Option String
  maxSteps : Option Int
  template : String
  inputs : List String
  deriving DecidableEq

/- Why there is nothing to run. -/
inductive Stop where
  | help
  | usage (error : UsageError)
  deriving DecidableEq

/- What was read of the arguments so far. -/
structure Draft where
  verbosity : Nat
  logFile : Option String
  maxSteps : Option Int
  template : Option String
  inputs : Option (List String)
  extras : List String
  deriving DecidableEq

namespace Draft

/- The draft before any argument is read. -/
def start
    (settings : Settings) : Draft where
  verbosity := settings.verbosity
  logFile := none
  maxSteps :=
    settings.maxSteps.map fun (limit : Nat) => (limit : Int)
  template := none
  inputs := none
  extras := []

/- Set arguments aside that have no use. -/
def setAside
    (draft : Draft)
    (arguments : List Argument) : Draft :=
  { draft with
    extras :=
      draft.extras ++ arguments.map Argument.text }

end Draft

end TextTemplate

------------------------------------------------------------
-- Template and Inputs
------------------------------------------------------------

namespace TextTemplate

namespace Draft

/-
  The first plain argument, with a divider beside it, and
  what follows.
-/
def splitTemplate :
    List Argument → Option (String × List Argument)
  | .divider :: .plain text :: later => some (text, later)
  | .plain text :: .divider :: later => some (text, later)
  | .plain text :: later => some (text, later)
  | _ => none

/-
  Take arguments as the inputs, if one of them is plain and
  there are no inputs yet; else set them aside.  The first
  divider is no input.
-/
def takeInputs
    (draft : Draft)
    (arguments : List Argument) : Draft :=
  if draft.inputs.isNone &&
      arguments.any Argument.isPlain then
    { draft with
      inputs := some
        ((arguments.map Argument.text).erase
          Argument.dividerText) }
  else
    draft.setAside arguments

/- Take arguments as the template and the inputs. -/
def takeArguments
    (draft : Draft)
    (arguments : List Argument) : Draft :=
  match draft.template, splitTemplate arguments with
  | none, some (template, later) =>
      { draft with template := some template }
        |>.takeInputs later
  | none, none => draft.setAside arguments
  | some _, _ => draft.takeInputs arguments

end Draft

end TextTemplate

------------------------------------------------------------
-- Options
------------------------------------------------------------

namespace TextTemplate

namespace Draft

/- Apply an option, with its value if it takes one. -/
def apply
    (draft : Draft)
    (flag : Flag)
    (value : String) : Except Stop Draft :=
  match flag with
  | .help => .error .help
  | .verbose =>
      .ok { draft with verbosity := draft.verbosity + 1 }
  | .logFile =>
      .ok { draft with logFile := some value }
  | .maxSteps =>
      match Numeral.read? value with
      | some limit =>
          .ok { draft with maxSteps := some limit }
      | none =>
          .error (.usage (.badNumber flag value))

/- The options written together after a first one. -/
def cluster
    (flag : Flag) :
    List Char → Except UsageError (List Flag)
  | [] => .ok [flag]
  | letter :: later =>
      match Spelling.ofText? (String.ofList ['-', letter])
      with
      | some spelling => do
          let flags ← cluster spelling.flag later
          return flag :: flags
      | none =>
          .error (.ignoredValue flag
            (String.ofList (letter :: later)))

/- Apply options without values, one after another. -/
def applyAll :
    List Flag → Draft → Except Stop Draft
  | [], draft => .ok draft
  | flag :: later, draft => do
      let draft ← draft.apply flag ""
      applyAll later draft

/- Apply an option that has a value of its own. -/
def applyJoined
    (draft : Draft)
    (spelling : Spelling)
    (value : String) : Except Stop Draft :=
  if spelling.flag.takesValue then
    draft.apply spelling.flag value
  else if spelling.isShort && value != "" then
    match cluster spelling.flag value.toList with
    | .ok flags => applyAll flags draft
    | .error error => .error (.usage error)
  else
    .error (.usage (.ignoredValue spelling.flag value))

end Draft

end TextTemplate

------------------------------------------------------------
-- Reading
------------------------------------------------------------

namespace TextTemplate

/-
  The draft while arguments are read, the arguments since
  the last option, the newest first, and the option whose
  value comes next.
-/
structure Reader where
  draft : Draft
  waiting : List Argument
  awaiting : Option Flag
  deriving DecidableEq

namespace Reader

/- The reader before any argument is read. -/
def start
    (settings : Settings) : Reader :=
  ⟨.start settings, [], none⟩

/- The draft after the waiting arguments are taken. -/
def flushed
    (reader : Reader) : Draft :=
  reader.draft.takeArguments reader.waiting.reverse

/- Read an option that has no value of its own. -/
def readAlone
    (draft : Draft)
    (flag : Flag) : Except Stop Reader :=
  if flag.takesValue then
    .ok ⟨draft, [], some flag⟩
  else
    (draft.apply flag "").map fun draft =>
      ⟨draft, [], none⟩

/- Read an argument, unless a value is awaited. -/
def readFree
    (reader : Reader)
    (argument : Argument) : Except Stop Reader :=
  match argument with
  | .option spelling (some value) =>
      (reader.flushed.applyJoined spelling value).map
        fun draft => ⟨draft, [], none⟩
  | .option spelling none =>
      readAlone reader.flushed spelling.flag
  | .unknown text =>
      .ok ⟨reader.flushed.setAside [.unknown text], [],
        none⟩
  | argument =>
      .ok { reader with
        waiting := argument :: reader.waiting }

/- Read an argument. -/
def read
    (reader : Reader)
    (argument : Argument) : Except Stop Reader :=
  match reader.awaiting, argument with
  | none, argument => reader.readFree argument
  | some flag, .plain value =>
      (reader.draft.apply flag value).map fun draft =>
        ⟨draft, [], none⟩
  | some flag, _ =>
      .error (.usage (.missingValue flag))

/- The draft after the last argument. -/
def close
    (reader : Reader) : Except Stop Draft :=
  match reader.awaiting with
  | none => .ok reader.flushed
  | some flag => .error (.usage (.missingValue flag))

end Reader

namespace Draft

/- The names of the arguments that are not there. -/
def missing
    (draft : Draft) : List String :=
  (if draft.template.isNone then ["template"] else []) ++
    if draft.inputs.isNone then ["inputs"] else []

/- The options of a draft that has all it needs. -/
def finish
    (draft : Draft) : Except Stop Options :=
  match draft.template, draft.inputs with
  | some template, some inputs =>
      if draft.extras.isEmpty then
        .ok ⟨draft.verbosity, draft.logFile,
          draft.maxSteps, template, inputs⟩
      else
        .error (.usage (.unrecognized draft.extras))
  | _, _ =>
      .error (.usage (.missingArguments draft.missing))

end Draft

namespace Options

/- Read the arguments of a run under some settings. -/
def read
    (settings : Settings)
    (texts : List String) : Except Stop Options := do
  let arguments ←
    (Argument.readAll texts).mapError Stop.usage
  let reader ←
    arguments.foldlM Reader.read (.start settings)
  let draft ← reader.close
  draft.finish

end Options

end TextTemplate
