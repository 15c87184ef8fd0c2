import TextTemplate.Proofs.CommandLine.Recording

/-
  Runs that follow each other in one session.

  A run sets the threshold before it shows anything, and
  gives up its own writer however it ends.  So it does the
  same as in a fresh session, leaves the handlers as they
  were, and adds its events, and nothing else, to its log
  file.

  Main declarations:
    * `Invocation`
    * `Invocation.options?`
    * `Invocation.loggedTo`
    * `Session.after`
    * `Session.records_after`
    * `runs_do_not_leak`
-/

------------------------------------------------------------
-- Invocations
------------------------------------------------------------

namespace TextTemplate

/- What a run is started with. -/
structure Invocation where
  environment : Environment
  arguments : List String

namespace Invocation

/-
  The options of a run, if its settings and its arguments
  can be read.
-/
def options?
    (invocation : Invocation) : Option Options :=
  match Settings.read invocation.environment with
  | .ok settings =>
      (Options.read settings invocation.arguments).toOption
  | .error _ => none

/- The log file of a run that gets to have one. -/
def logFile?
    (invocation : Invocation) : Option String :=
  invocation.options?.bind Options.logFile

/- The lines of the events that a run logs to a path. -/
def loggedTo
    (invocation : Invocation)
    (path : String) : List String :=
  match invocation.options? with
  | some options =>
      if options.logFile = some path then
        (Session.transcriptOf options).logged
      else
        []
  | none => []

end Invocation

namespace Session

/- Run the program as an invocation says. -/
def call
    (session : Session)
    (invocation : Invocation) : RunResult × Session :=
  session.run invocation.environment invocation.arguments

/- The session after some runs, one after another. -/
def after
    (session : Session)
    (invocations : List Invocation) : Session :=
  invocations.foldl
    (fun session invocation => (session.call invocation).2)
    session

end Session

end TextTemplate

------------------------------------------------------------
-- Single Runs
------------------------------------------------------------

namespace TextTemplate

namespace Session

/- The options of a run are read of settings and arguments. -/
theorem exists_settings_of_options
    {invocation : Invocation}
    {options : Options}
    (hOptions : invocation.options? = some options) :
    ∃ settings,
      Settings.read invocation.environment = .ok settings ∧
        Options.read settings invocation.arguments =
          .ok options := by
  unfold Invocation.options? at hOptions
  split at hOptions
  · rename_i settings hSettings
    refine ⟨settings, hSettings, ?_⟩
    cases hRead :
        Options.read settings invocation.arguments with
    | error stop =>
        rw [hRead] at hOptions
        exact nomatch hOptions
    | ok found =>
        rw [hRead] at hOptions
        exact congrArg _ (Option.some.inj hOptions)
  · exact nomatch hOptions

/- A run with options does what they ask for. -/
theorem call_of_options
    {invocation : Invocation}
    {options : Options}
    (hOptions : invocation.options? = some options)
    (session : Session) :
    session.call invocation = session.perform options := by
  rcases exists_settings_of_options hOptions with
    ⟨settings, hSettings, hRead⟩
  exact session.run_of_options hSettings hRead

/- A run with options has a budget that can be written. -/
theorem shortBudget_of_options
    {invocation : Invocation}
    {options : Options}
    (hOptions : invocation.options? = some options) :
    ShortBudget options.maxSteps := by
  rcases exists_settings_of_options hOptions with
    ⟨settings, hSettings, hRead⟩
  exact Options.shortBudget_of_read hSettings hRead

/- A run without options leaves the session as it is. -/
theorem call_of_no_options
    {invocation : Invocation}
    (hOptions : invocation.options? = none) :
    ∃ result, ∀ session : Session,
      session.call invocation = (result, session) := by
  unfold Invocation.options? at hOptions
  split at hOptions
  · rename_i settings hSettings
    cases hRead :
        Options.read settings invocation.arguments with
    | ok options =>
        rw [hRead] at hOptions
        exact nomatch hOptions
    | error stop =>
        simp only [call, run, hSettings, hRead]
        cases stop with
        | help => exact ⟨_, fun _ => rfl⟩
        | usage error => exact ⟨_, fun _ => rfl⟩
  · rename_i error hSettings
    refine ⟨refuse [settingMessage error], ?_⟩
    intro session
    exact session.run_of_no_settings hSettings
      invocation.arguments

/- What a run shows and how it ends is its own affair. -/
theorem call_result
    (session fresh : Session)
    (invocation : Invocation) :
    (session.call invocation).1 =
      (fresh.call invocation).1 := by
  cases hOptions : invocation.options? with
  | none =>
      rcases call_of_no_options hOptions with ⟨result, hCall⟩
      rw [hCall session, hCall fresh]
  | some options =>
      have hBudget := shortBudget_of_options hOptions
      rw [call_of_options hOptions, call_of_options hOptions]
      have hShown := perform_shown hBudget session
      rw [← perform_shown hBudget fresh] at hShown
      have hEnding := perform_ending hBudget session
      rw [← perform_ending hBudget fresh] at hEnding
      exact congrArg₂ RunResult.mk hShown hEnding

/- A run leaves the handlers as they were. -/
theorem dispatcher_call
    {session : Session}
    {paths : List String}
    (hRecords : session.Records paths)
    (invocation : Invocation) :
    (session.call invocation).2.dispatcher =
      session.dispatcher := by
  cases hOptions : invocation.options? with
  | none =>
      rcases call_of_no_options hOptions with ⟨_, hCall⟩
      rw [hCall]
  | some options =>
      rw [call_of_options hOptions]
      exact dispatcher_perform hRecords
        (shortBudget_of_options hOptions)

/- A run adds its writer, which is closed. -/
theorem writers_call
    {session : Session}
    {paths : List String}
    (hRecords : session.Records paths)
    (invocation : Invocation) :
    (session.call invocation).2.writers =
      session.writers ++
        invocation.logFile?.toList.map
          fun path => (Writer.start path).close := by
  cases hOptions : invocation.options? with
  | none =>
      rcases call_of_no_options hOptions with ⟨_, hCall⟩
      simp [hCall, Invocation.logFile?, hOptions]
  | some options =>
      rw [call_of_options hOptions,
        writers_perform hRecords
          (shortBudget_of_options hOptions),
        Invocation.logFile?, hOptions, Option.bind_some]

/- A run adds the lines of its own events. -/
theorem lines_call
    {session : Session}
    {paths : List String}
    (hRecords : session.Records paths)
    (invocation : Invocation)
    {path : String}
    (hPath : path ∉ paths) :
    (session.call invocation).2.files.lines path =
      session.files.lines path ++
        invocation.loggedTo path := by
  cases hOptions : invocation.options? with
  | none =>
      rcases call_of_no_options hOptions with ⟨_, hCall⟩
      simp [hCall, Invocation.loggedTo, hOptions]
  | some options =>
      rw [call_of_options hOptions, Invocation.loggedTo,
        hOptions]
      exact lines_perform_of_not_mem hRecords
        (shortBudget_of_options hOptions) hPath

/- After a run the same files are recorded. -/
theorem records_call
    {session : Session}
    {paths : List String}
    (hRecords : session.Records paths)
    (invocation : Invocation) :
    (session.call invocation).2.Records paths := by
  cases hOptions : invocation.options? with
  | none =>
      rcases call_of_no_options hOptions with ⟨_, hCall⟩
      rw [hCall]
      exact hRecords
  | some options =>
      rw [call_of_options hOptions]
      exact records_perform hRecords
        (shortBudget_of_options hOptions)

end Session

end TextTemplate

------------------------------------------------------------
-- Successive Runs
------------------------------------------------------------

namespace TextTemplate

namespace Session

/- After any runs the same files are recorded. -/
theorem records_after
    {session : Session}
    {paths : List String}
    (hRecords : session.Records paths)
    (invocations : List Invocation) :
    (session.after invocations).Records paths := by
  induction invocations generalizing session with
  | nil => exact hRecords
  | cons invocation later ih =>
      exact ih (records_call hRecords invocation)

/- After any runs the handlers are the same. -/
theorem dispatcher_after
    {session : Session}
    {paths : List String}
    (hRecords : session.Records paths)
    (invocations : List Invocation) :
    (session.after invocations).dispatcher =
      session.dispatcher := by
  induction invocations generalizing session with
  | nil => rfl
  | cons invocation later ih =>
      rw [← dispatcher_call hRecords invocation]
      exact ih (records_call hRecords invocation)

end Session

/-
  A run that comes after any others shows and returns what
  it does in a fresh session.  It leaves the handlers as they
  were in the beginning, closes its writer, and adds exactly
  its own events to its log file.
-/
theorem runs_do_not_leak
    {session : Session}
    {paths : List String}
    (hRecords : session.Records paths)
    (earlier : List Invocation)
    (next : Invocation) :
    let before := session.after earlier
    let ended := before.call next
    (∀ fresh : Session, ended.1 = (fresh.call next).1) ∧
      before.dispatcher = session.dispatcher ∧
      ended.2.dispatcher = before.dispatcher ∧
      ended.2.writers =
        before.writers ++
          next.logFile?.toList.map
            (fun path => (Writer.start path).close) ∧
      ∀ path ∉ paths,
        ended.2.files.lines path =
          before.files.lines path ++ next.loggedTo path := by
  intro before ended
  have hBefore : before.Records paths :=
    Session.records_after hRecords earlier
  refine ⟨?_, ?_, ?_, ?_, ?_⟩
  · intro fresh
    exact before.call_result fresh next
  · exact Session.dispatcher_after hRecords earlier
  · exact Session.dispatcher_call hBefore next
  · exact Session.writers_call hBefore next
  · intro path hPath
    exact Session.lines_call hBefore next hPath

/-
  A run with a log file after a bad setting, a verbose run
  with a malformed template and the same log file, and
  arguments that cannot be used.
-/
theorem runs_do_not_leak_after_failures :
    let earlier : List Invocation :=
      [⟨[("FIELDSCAN_VERBOSE", "-1")], ["{a}", "x"]⟩,
        ⟨[], ["-vv", "--logfile=log", "{a::x}", "1"]⟩,
        ⟨[], ["-v", "{a}"]⟩]
    let next : Invocation :=
      ⟨[("FIELDSCAN_VERBOSE", "1")],
        ["--logfile=log", "{a}-", "x-", "x"]⟩
    let before := Session.start.after earlier
    let ended := before.call next
    ended.1 = (Session.start.call next).1 ∧
      ended.2.dispatcher = .empty ∧
      ended.2.writers =
        before.writers ++ [⟨"log", true⟩] ∧
      ended.2.files.lines "log" =
        before.files.lines "log" ++
          (Transcript.ofRun "{a}-" ["x-", "x"]
            none).logged := by
  intro earlier next before ended
  have hOptions : next.options? =
      some ⟨1, some "log", none, "{a}-", ["x-", "x"]⟩ := by
    decide +kernel
  have hLogged : next.loggedTo "log" =
      (Transcript.ofRun "{a}-" ["x-", "x"] none).logged := by
    rw [Invocation.loggedTo, hOptions]
    rfl
  have hFile : next.logFile? = some "log" := by
    rw [Invocation.logFile?, hOptions]
    rfl
  have hRun := runs_do_not_leak Session.idle_start.records
    earlier next
  rcases hRun with
    ⟨hResult, hStart, hHandlers, hWriters, hLines⟩
  refine ⟨hResult Session.start, hHandlers.trans hStart,
    ?_, ?_⟩
  · rw [hFile] at hWriters
    exact hWriters
  · rw [← hLogged]
    exact hLines "log" List.not_mem_nil

end TextTemplate
