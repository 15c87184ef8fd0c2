import Mathlib.Data.List.Forall2
import TextTemplate.Proofs.CommandLine.Runs
import TextTemplate.Proofs.Log.Isolation
import TextTemplate.Proofs.Log.Journal

/-
  What a run leaves in the log files.

  While a session has handlers that are open writers, each
  notice that can be written adds a line to their files and
  changes nothing else.
  A run adds at most one writer, on its own log file.  At the
  end this writer is closed, and the handlers are those that
  there were before.

  Main declarations:
    * `Files.lines`
    * `Files.appendLines`
    * `Session.Idle`
    * `Session.Records`
    * `Session.log_of_records`
    * `Session.foldl_record_of_records`
    * `Session.perform_of_records`
    * `Session.lines_perform_of_not_mem`
-/

------------------------------------------------------------
-- Lines of Files
------------------------------------------------------------

namespace TextTemplate

namespace Files

/- The lines at a path, none if there is no file. -/
def lines
    (files : Files)
    (path : String) : List String :=
  ((files.get? path).getD .empty).lines.toList

/- Add a line to the file at a path. -/
def appendLine
    (files : Files)
    (path line : String) : Files :=
  files.set path
    (((files.get? path).getD .empty).append line)

/- Add a line to the files at some paths. -/
def appendToAll
    (files : Files)
    (paths : List String)
    (line : String) : Files :=
  paths.foldl (fun files path => files.appendLine path line)
    files

/- Add lines, each of them to the files at some paths. -/
def appendLines
    (files : Files)
    (paths lines : List String) : Files :=
  lines.foldl
    (fun files line => files.appendToAll paths line) files

theorem get?_set_self
    (files : Files)
    (path : String)
    (file : LogFile) :
    (files.set path file).get? path = some file := by
  simp [get?, set]

/- A file is put at its own path only. -/
theorem get?_set_of_ne
    (files : Files)
    {path other : String}
    (file : LogFile)
    (hOther : other ≠ path) :
    (files.set path file).get? other =
      files.get? other := by
  rcases files with ⟨entries⟩
  simp only [get?, set, List.lookup_cons,
    beq_eq_false_iff_ne.mpr hOther]
  induction entries with
  | nil => rfl
  | cons entry later ih =>
      rcases entry with ⟨key, stored⟩
      by_cases hKey : key = path
      · subst hKey
        simp [List.lookup_cons,
          beq_eq_false_iff_ne.mpr hOther, ih]
      · simp [List.lookup_cons, hKey, ih]

/- Making an empty file changes no lines. -/
theorem lines_touch
    (files : Files)
    (path other : String) :
    (files.touch path).lines other = files.lines other := by
  unfold touch
  cases hFile : files.get? path with
  | some file => rfl
  | none =>
      by_cases hOther : other = path
      · subst hOther
        simp [lines, get?_set_self, hFile]
      · simp [lines, get?_set_of_ne files .empty hOther]

/- A line is added to the file at its path only. -/
theorem lines_appendLine
    (files : Files)
    (path line other : String) :
    (files.appendLine path line).lines other =
      if other = path then
        files.lines other ++ [line]
      else
        files.lines other := by
  by_cases hOther : other = path
  · subst hOther
    simp [lines, appendLine, get?_set_self, LogFile.append]
  · rw [if_neg hOther]
    simp [lines, appendLine, get?_set_of_ne files _ hOther]

/- A line is added as often as its path is listed. -/
theorem lines_appendToAll
    (files : Files)
    (paths : List String)
    (line other : String) :
    (files.appendToAll paths line).lines other =
      files.lines other ++
        List.replicate (paths.count other) line := by
  induction paths generalizing files with
  | nil => simp [appendToAll]
  | cons path later ih =>
      have hStep : files.appendToAll (path :: later) line =
          (files.appendLine path line).appendToAll later
            line := rfl
      rw [hStep, ih, lines_appendLine, List.count_cons]
      by_cases hOther : other = path
      · subst hOther
        simp [List.replicate_succ]
      · simp [hOther, Ne.symm hOther]

/- Lines are added in order. -/
theorem lines_appendLines
    (files : Files)
    (paths added : List String)
    (other : String) :
    (files.appendLines paths added).lines other =
      files.lines other ++
        added.flatMap
          (List.replicate (paths.count other)) := by
  induction added generalizing files with
  | nil => simp [appendLines]
  | cons line later ih =>
      have hStep : files.appendLines paths (line :: later) =
          (files.appendToAll paths line).appendLines paths
            later := rfl
      rw [hStep, ih, lines_appendToAll, List.flatMap_cons,
        List.append_assoc]

end Files

end TextTemplate

------------------------------------------------------------
-- Logging
------------------------------------------------------------

namespace TextTemplate

namespace Session

/- A session in which nothing handles events. -/
def Idle
    (session : Session) : Prop :=
  session.dispatcher.handlers = []

/- The state before the first run has no handlers. -/
theorem idle_start : start.Idle :=
  rfl

/-
  A session in which events are handled by writers, none of
  them closed, on the files at some paths.
-/
def Records
    (session : Session)
    (paths : List String) : Prop :=
  List.Forall₂
    (fun number path =>
      session.writers[number]? = some (.start path))
    session.dispatcher.handlers paths

/- Without handlers nothing is recorded. -/
theorem Idle.records
    {session : Session}
    (hIdle : session.Idle) :
    session.Records [] := by
  rw [Idle] at hIdle
  rw [Records, hIdle]
  exact .nil

/- The handlers are numbers of writers. -/
theorem Records.lt_length
    {session : Session}
    {paths : List String}
    (hRecords : session.Records paths) :
    ∀ number ∈ session.dispatcher.handlers,
      number < session.writers.length := by
  have hBounded : List.Forall₂
      (fun number path =>
        number < session.writers.length ∧
          session.writers[number]? = some (.start path))
      session.dispatcher.handlers paths :=
    hRecords.imp fun number path hWriter =>
      ⟨(List.getElem?_eq_some_iff.mp hWriter).1, hWriter⟩
  exact ((List.forall₂_and_left _ _).mp hBounded).1

/- More writers and other files leave the handlers open. -/
theorem Records.extend
    {session : Session}
    {paths : List String}
    (hRecords : session.Records paths)
    (files : Files)
    (more : List Writer)
    (threshold : Int)
    (reports : List String) :
    Records
      ⟨files, session.writers ++ more, session.dispatcher,
        threshold, reports⟩
      paths := by
  refine hRecords.imp fun number path hWriter => ?_
  have hNumber := (List.getElem?_eq_some_iff.mp hWriter).1
  rw [List.getElem?_append_left hNumber]
  exact hWriter

/- A writer that is called does not remove itself. -/
theorem leavers_callsOf_react
    (session : Session)
    (level : String)
    (event : Event)
    (number : Nat)
    (handlers : List Nat) :
    Call.leavers
        (Dispatcher.callsOf session.react level event number
          handlers) =
      [] := by
  rw [Call.leavers, List.map_eq_nil_iff,
    List.filter_eq_nil_iff]
  intro call hCall
  rcases List.mem_map.mp hCall with ⟨_, _, rfl⟩
  exact Bool.false_ne_true

/- A writer that is called adds no handlers. -/
theorem added_callsOf_react
    (session : Session)
    (level : String)
    (event : Event)
    (number : Nat)
    (handlers : List Nat) :
    Call.added
        (Dispatcher.callsOf session.react level event number
          handlers) =
      [] := by
  rw [Call.added, List.flatMap_eq_nil_iff]
  intro call hCall
  rcases List.mem_map.mp hCall with ⟨_, _, rfl⟩
  rfl

/- Writers do not change who handles events. -/
theorem emit_react
    (session : Session)
    (level : String)
    (event : Event) :
    session.dispatcher.emit session.react level event =
      ⟨event,
        Dispatcher.callsOf session.react level event 0
          session.dispatcher.handlers,
        session.dispatcher⟩ := by
  have hEmit := Dispatcher.emit_eq session.react level event
    session.dispatcher.handlers
  rw [leavers_callsOf_react, added_callsOf_react,
    List.diff_nil, List.append_nil] at hEmit
  exact hEmit

/- An open writer writes what has nothing in its way. -/
theorem write_start
    {event : Event}
    (hEvent : event.obstacles = [])
    (path : String)
    (file : LogFile) :
    (Writer.start path).write file event =
      .ok (file.append event.json) := by
  rw [Writer.write, hEvent]
  rfl

/- An open writer adds a line and changes nothing else. -/
theorem write_of_open
    {session : Session}
    {number : Nat}
    {path : String}
    (hWriter :
      session.writers[number]? = some (.start path))
    {event : Event}
    (hEvent : event.obstacles = []) :
    session.write event number =
      { session with
        files :=
          session.files.appendLine path event.json } := by
  rw [write, hWriter]
  simp only [write_start hEvent]
  rfl

/- An open writer does not fail. -/
theorem refuses_of_open
    {session : Session}
    {number : Nat}
    {path : String}
    (hWriter :
      session.writers[number]? = some (.start path))
    {event : Event}
    (hEvent : event.obstacles = []) :
    session.refuses event number = false := by
  rw [refuses, hWriter]
  simp only [write_start hEvent]
  rfl

/- Open writers add a line each. -/
theorem foldl_write_of_open
    {session : Session}
    {numbers : List Nat}
    {paths : List String}
    (hWriters : List.Forall₂
      (fun number path =>
        session.writers[number]? = some (.start path))
      numbers paths)
    {event : Event}
    (hEvent : event.obstacles = []) :
    numbers.foldl
        (fun (session : Session) number =>
          session.write event number)
        session =
      { session with
        files :=
          session.files.appendToAll paths event.json } := by
  induction numbers generalizing session paths with
  | nil =>
      cases hWriters
      rfl
  | cons number later ih =>
      cases hWriters with
      | cons hWriter hLater =>
          rw [List.foldl_cons, write_of_open hWriter hEvent]
          exact ih hLater

/- The calls of writers write their event, one after another. -/
theorem foldl_write_calls
    (session : Session)
    (level : String)
    (event : Event)
    (number : Nat)
    (handlers : List Nat)
    (handed : Session) :
    (Dispatcher.callsOf session.react level event number
        handlers).foldl
        (fun session call =>
          session.write call.event call.handler)
        handed =
      handlers.foldl
        (fun session handler => session.write event handler)
        handed := by
  induction handlers generalizing number handed with
  | nil => rfl
  | cons handler later ih =>
      rw [Dispatcher.callsOf_cons, List.foldl_cons,
        List.foldl_cons]
      exact ih (number + 1) _

/- The writers that refuse an event are those reported. -/
theorem failed_react
    (session : Session)
    (level : String)
    (event : Event) :
    (session.dispatcher.emit session.react level
        event).failed =
      session.dispatcher.handlers.filter
        (session.refuses event) := by
  have hFails :
      ∀ call ∈ Dispatcher.callsOf session.react level event 0
          session.dispatcher.handlers,
        call.reaction.fails =
          session.refuses event call.handler := by
    intro call hCall
    rcases List.mem_map.mp hCall with ⟨entry, _, rfl⟩
    rfl
  rw [emit_react, Emission.failed, List.filter_congr hFails]
  change List.map Call.handler
    (List.filter (session.refuses event ∘ Call.handler) _) = _
  rw [← List.filter_map, Dispatcher.map_handler_callsOf]

/- No open writer is reported. -/
theorem failed_of_records
    {session : Session}
    {paths : List String}
    (hRecords : session.Records paths)
    (level : String)
    {event : Event}
    (hEvent : event.obstacles = []) :
    (session.dispatcher.emit session.react level
      event).failed = [] := by
  have hOpen : List.Forall₂
      (fun number (_ : String) =>
        session.refuses event number = false ∧ True)
      session.dispatcher.handlers paths :=
    hRecords.imp fun number path hWriter =>
      ⟨refuses_of_open hWriter hEvent, trivial⟩
  have hAccepts := ((List.forall₂_and_left _ _).mp hOpen).1
  rw [failed_react, List.filter_eq_nil_iff]
  intro number hNumber
  exact ne_true_of_eq_false (hAccepts number hNumber)

/- A recorded event adds its lines and changes nothing else. -/
theorem log_of_records
    {session : Session}
    {paths : List String}
    (hRecords : session.Records paths)
    (level : String)
    {event : Event}
    (hEvent : event.obstacles = []) :
    (session.log level event).2 =
      { session with
        files :=
          session.files.appendToAll paths event.json } := by
  have hFailed := failed_of_records hRecords level hEvent
  rw [emit_react] at hFailed
  rw [log, emit_react, hFailed]
  simp only [foldl_write_calls, List.map_nil,
    List.append_nil]
  exact foldl_write_of_open hRecords hEvent

/- Recorded notices add their lines, in order. -/
theorem foldl_record_of_records
    {session : Session}
    {paths : List String}
    (hRecords : session.Records paths)
    {effects : List Effect}
    (hShort : effects.any Effect.isLong = false) :
    effects.foldl record session =
      { session with
        files := session.files.appendLines paths
          ((effects.filterMap Effect.notice?).map
            fun notice => notice.event.json) } := by
  induction effects generalizing session with
  | nil => rfl
  | cons effect later ih =>
      rw [List.any_cons, Bool.or_eq_false_iff] at hShort
      rw [List.foldl_cons]
      cases effect with
      | notice notice =>
          have hNotice : notice.isLong = false := hShort.1
          have hEvent := notice.obstacles_event
          rw [hNotice] at hEvent
          rw [record, log_of_records hRecords _ hEvent]
          exact ih hRecords hShort.2
      | output line => exact ih hRecords hShort.2
      | message line => exact ih hRecords hShort.2

end Session

end TextTemplate

------------------------------------------------------------
-- Recorded Runs
------------------------------------------------------------

namespace TextTemplate

/- The lines that the notices of a transcript are logged as. -/
def Transcript.logged
    (transcript : Transcript) : List String :=
  transcript.notices.map fun notice => notice.event.json

namespace Session

/- A writer that is opened records beside the others. -/
theorem records_openWriter
    {session : Session}
    {paths : List String}
    (hRecords : session.Records paths)
    (path : String) :
    (session.openWriter path).Records (paths ++ [path]) := by
  have hNew :
      (session.writers ++ [Writer.start path])[
        session.writers.length]? = some (.start path) := by
    simp
  exact List.rel_append
    (hRecords.extend (session.files.touch path)
      [.start path] session.threshold session.reports)
    (.cons hNew .nil)

/-
  To close the newest writer is to be left with the handlers
  that there were before it was opened.
-/
theorem closeWriter_openWriter
    {session : Session}
    {paths : List String}
    (hRecords : session.Records paths)
    (path : String)
    (files : Files) :
    closeWriter
        { session.openWriter path with files := files }
        session.writers.length =
      { session with
        files := files
        writers :=
          session.writers ++ [(Writer.start path).close] } := by
  rcases session with
    ⟨old, writers, ⟨handlers⟩, threshold, reports⟩
  have hNew : writers.length ∉ handlers := by
    intro hMem
    exact Nat.lt_irrefl _ (hRecords.lt_length _ hMem)
  have hRemoved :
      (handlers ++ [writers.length]).erase writers.length =
        handlers := by
    simp [List.erase_append_right _ hNew]
  have hClosed :
      (writers ++ [Writer.start path]).modify
          writers.length Writer.close =
        writers ++ [(Writer.start path).close] := by
    simp [List.modify_eq_take_drop]
  simp [closeWriter, openWriter, Dispatcher.add,
    Dispatcher.remove, hRemoved, hClosed]

variable {options : Options}

/-
  After a run, the session has the threshold of the run, and
  the notices have been added to the files.  A run with a log
  file leaves a closed writer behind.
-/
theorem perform_of_records
    {session : Session}
    {paths : List String}
    (hRecords : session.Records paths)
    (hBudget : ShortBudget options.maxSteps) :
    let shown :=
      { session with
        threshold := Level.threshold options.verbosity }
    (session.perform options).2 =
      match options.logFile with
      | none =>
          { shown with
            files := session.files.appendLines paths
              (transcriptOf options).logged }
      | some path =>
          { shown with
            files :=
              (session.files.touch path).appendLines
                (paths ++ [path])
                (transcriptOf options).logged
            writers :=
              session.writers ++
                [(Writer.start path).close] } := by
  intro shown
  have hShown : shown.Records paths := hRecords
  have hShort :
      (transcriptOf options).effects.any Effect.isLong =
        false :=
    Transcript.any_isLong_ofAny hBudget _ _
  rw [perform_session hBudget]
  unfold configure
  cases options.logFile with
  | none => exact foldl_record_of_records hShown hShort
  | some path =>
      have hOpened := records_openWriter hShown path
      change Session.closeWriter
        ((transcriptOf options).effects.foldl record
          (shown.openWriter path)) shown.writers.length = _
      rw [foldl_record_of_records hOpened hShort,
        closeWriter_openWriter hShown]
      rfl

/- A run leaves the handlers as they were. -/
theorem dispatcher_perform
    {session : Session}
    {paths : List String}
    (hRecords : session.Records paths)
    (hBudget : ShortBudget options.maxSteps) :
    (session.perform options).2.dispatcher =
      session.dispatcher := by
  rw [perform_of_records hRecords hBudget]
  cases options.logFile <;> rfl

/- A run adds a closed writer if it has a log file. -/
theorem writers_perform
    {session : Session}
    {paths : List String}
    (hRecords : session.Records paths)
    (hBudget : ShortBudget options.maxSteps) :
    (session.perform options).2.writers =
      session.writers ++
        options.logFile.toList.map
          fun path => (Writer.start path).close := by
  rw [perform_of_records hRecords hBudget]
  cases options.logFile with
  | none => simp
  | some path => rfl

/- After a run the same files are recorded. -/
theorem records_perform
    {session : Session}
    {paths : List String}
    (hRecords : session.Records paths)
    (hBudget : ShortBudget options.maxSteps) :
    (session.perform options).2.Records paths := by
  have hMore := hRecords.extend
    (session.perform options).2.files
    (options.logFile.toList.map
      fun path => (Writer.start path).close)
    (session.perform options).2.threshold
    (session.perform options).2.reports
  rw [← writers_perform hRecords hBudget,
    ← dispatcher_perform hRecords hBudget] at hMore
  exact hMore

/-
  A run adds its notices to its own log file, apart from the
  files that are recorded anyway.
-/
theorem lines_perform_of_not_mem
    {session : Session}
    {paths : List String}
    (hRecords : session.Records paths)
    (hBudget : ShortBudget options.maxSteps)
    {path : String}
    (hPath : path ∉ paths) :
    (session.perform options).2.files.lines path =
      session.files.lines path ++
        if options.logFile = some path then
          (transcriptOf options).logged
        else
          [] := by
  have hCount : paths.count path = 0 :=
    List.count_eq_zero.mpr hPath
  rw [perform_of_records hRecords hBudget]
  cases options.logFile with
  | none => simp [Files.lines_appendLines, hCount]
  | some other =>
      by_cases hOther : other = path
      · simp only [Files.lines_appendLines,
          Files.lines_touch, List.count_append, hCount,
          hOther, List.count_singleton_self, if_true]
        exact congrArg _ (List.flatMap_singleton' _)
      · simp [Files.lines_appendLines, Files.lines_touch,
          hCount, hOther]

/- A run adds its notices to its own log file only. -/
theorem lines_perform
    {session : Session}
    (hIdle : session.Idle)
    (hBudget : ShortBudget options.maxSteps)
    (path : String) :
    (session.perform options).2.files.lines path =
      session.files.lines path ++
        if options.logFile = some path then
          (transcriptOf options).logged
        else
          [] :=
  lines_perform_of_not_mem hIdle.records hBudget
    List.not_mem_nil

end Session

end TextTemplate
