import TextTemplate.Proofs.CommandLine.Recording

/-
  What the verbosity and the log file of a run change.

  They change neither the output nor the ending, and the log
  file gets all events whatever the verbosity.  A run that is
  less verbose shows the same messages without some lines of
  events.

  Main declarations:
    * `Thinned`
    * `Effect.messageAt`
    * `Transcript.thinned_messageAt`
    * `run_undisturbed_by_observation`
-/

------------------------------------------------------------
-- Lines of Events
------------------------------------------------------------

namespace TextTemplate

/- More is shown to those who ask for more. -/
theorem Level.threshold_anti
    {verbosity other : Int}
    (hLess : verbosity ≤ other) :
    threshold other ≤ threshold verbosity := by
  unfold threshold debugRank infoRank warningRank
  split <;> split <;> omega

/- Whether a line is a message that names the program. -/
def isComplaint
    (line : String) : Bool :=
  (Usage.programName ++ ":").toList.isPrefixOf line.toList

namespace Notice

/- The heading of a line begins with another letter. -/
theorem head?_heading
    (notice : Notice) :
    ∃ c, (Line.heading notice.level).toList.head? = some c ∧
      c ≠ 'f' := by
  have hLevel : notice.level ∈
      ["debug", "info", "warning", "error"] := by
    cases notice <;> simp [level]
  have hHeadings :
      ∀ level ∈ ["debug", "info", "warning", "error"],
        (Line.heading level).toList.head?.any (· != 'f') =
          true := by
    decide +kernel
  have hHead := hHeadings notice.level hLevel
  cases hFirst :
      (Line.heading notice.level).toList.head? with
  | none =>
      rw [hFirst] at hHead
      exact nomatch hHead
  | some c =>
      rw [hFirst] at hHead
      exact ⟨c, rfl, bne_iff_ne.mp hHead⟩

/- The line of a notice does not name the program. -/
theorem isComplaint_line
    (notice : Notice) :
    isComplaint notice.line = false := by
  rcases notice.head?_heading with ⟨c, hHead, hc⟩
  rcases List.head?_eq_some_iff.mp hHead with
    ⟨rest, hHeading⟩
  have hProgram :
      (Usage.programName ++ ":").toList =
        'f' :: "ieldscan:".toList := by
    decide +kernel
  rw [isComplaint, hProgram, line]
  simp [String.toList_append, hHeading, List.isPrefixOf,
    hc.symm]

end Notice

end TextTemplate

------------------------------------------------------------
-- Thinned Lines
------------------------------------------------------------

namespace TextTemplate

/- Lines without some of those that are removable. -/
inductive Thinned
    (removable : String → Prop) :
    List String → List String → Prop where
  | done : Thinned removable [] []
  | keep
      {line : String}
      {shorter longer : List String}
      (hLater : Thinned removable shorter longer) :
      Thinned removable (line :: shorter) (line :: longer)
  | drop
      {line : String}
      {shorter longer : List String}
      (hLine : removable line)
      (hLater : Thinned removable shorter longer) :
      Thinned removable shorter (line :: longer)

/- Lines that are not removable are all kept. -/
theorem Thinned.filter_eq
    {removable : String → Prop}
    {shorter longer : List String}
    (hThinned : Thinned removable shorter longer)
    {kept : String → Bool}
    (hKept : ∀ line, removable line → kept line = false) :
    shorter.filter kept = longer.filter kept := by
  induction hThinned with
  | done => rfl
  | @keep line _ _ _ ih =>
      rw [List.filter_cons, List.filter_cons, ih]
  | @drop line _ _ hLine _ ih =>
      rw [List.filter_cons, hKept line hLine, ih]
      rfl

end TextTemplate

------------------------------------------------------------
-- Messages
------------------------------------------------------------

namespace TextTemplate

/- The message shown for an effect from a rank on. -/
def Effect.messageAt
    (threshold : Int)
    (effect : Effect) : Option String :=
  (effect.shownAt threshold).bind Shown.message?

/- A run shows these messages at its verbosity. -/
theorem Session.perform_messages
    {options : Options}
    (hBudget : ShortBudget options.maxSteps)
    (session : Session) :
    (session.perform options).1.messages =
      (transcriptOf options).effects.filterMap
        (Effect.messageAt
          (Level.threshold options.verbosity)) := by
  rw [RunResult.messages, perform_shown hBudget,
    List.filterMap_filterMap]
  rfl

namespace Transcript

/-
  Whether a line is that of a notice which is shown from one
  rank on and not yet from another.
-/
def ShownBetween
    (transcript : Transcript)
    (low high : Int)
    (line : String) : Prop :=
  ∃ notice ∈ transcript.notices, line = notice.line ∧
    low ≤ Level.rank notice.level ∧
    Level.rank notice.level < high

/- A higher threshold thins the messages. -/
theorem thinned_messageAt
    (transcript : Transcript)
    {low high : Int}
    (hLess : low ≤ high) :
    Thinned (transcript.ShownBetween low high)
      (transcript.effects.filterMap (Effect.messageAt high))
      (transcript.effects.filterMap
        (Effect.messageAt low)) := by
  have hNotices : ∀ notice,
      .notice notice ∈ transcript.effects →
        notice ∈ transcript.notices := fun notice hNotice =>
    List.mem_filterMap.mpr ⟨_, hNotice, rfl⟩
  -- The effects shrink, the notices that may be dropped stay.
  generalize transcript.effects = effects at hNotices ⊢
  induction effects with
  | nil => exact .done
  | cons effect later ih =>
      have hLater := ih fun notice hNotice =>
        hNotices notice (List.mem_cons_of_mem _ hNotice)
      cases effect with
      | output line => exact hLater
      | message line => exact .keep hLater
      | notice notice =>
          have hNotice := hNotices notice List.mem_cons_self
          simp only [List.filterMap_cons, Effect.messageAt,
            Effect.shownAt]
          by_cases hLow : Level.rank notice.level < low
          · rw [if_pos (by omega), if_pos hLow]
            exact hLater
          · by_cases hHigh : Level.rank notice.level < high
            · rw [if_pos hHigh, if_neg hLow]
              exact .drop ⟨notice, hNotice, rfl,
                Int.not_lt.mp hLow, hHigh⟩ hLater
            · rw [if_neg hHigh, if_neg hLow]
              exact .keep hLater

end Transcript

end TextTemplate

------------------------------------------------------------
-- Two Runs
------------------------------------------------------------

namespace TextTemplate

/-
  Two runs with the same template, inputs and budget have
  the same output and ending, and each adds all events to
  its own log file only.  The messages depend on the
  verbosity only, and the run that is less verbose shows the
  messages of the other without some lines of events.
-/
theorem run_undisturbed_by_observation
    {session session' : Session}
    (hIdle : session.Idle)
    (hIdle' : session'.Idle)
    {environment environment' : Environment}
    {settings settings' : Settings}
    (hSettings : Settings.read environment = .ok settings)
    (hSettings' :
      Settings.read environment' = .ok settings')
    {words words' : List String}
    {draft draft' : Draft}
    (hPreamble : Preamble (.start settings) words draft)
    (hPreamble' :
      Preamble (.start settings') words' draft')
    (hBudget : draft'.maxSteps = draft.maxSteps)
    {source : String}
    {inputs : List String}
    (hSome : inputs ≠ [])
    (hSource : Unhyphenated source)
    (hInputs : ∀ input ∈ inputs, Unhyphenated input) :
    let observed :=
      session.run environment (words ++ source :: inputs)
    let other :=
      session'.run environment' (words' ++ source :: inputs)
    let transcript :=
      Transcript.ofRun source inputs draft.maxSteps
    other.1.output = observed.1.output ∧
      other.1.ending = observed.1.ending ∧
      (∀ path,
        observed.2.files.lines path =
            session.files.lines path ++
              (if draft.logFile = some path then
                transcript.logged
              else
                []) ∧
          other.2.files.lines path =
            session'.files.lines path ++
              if draft'.logFile = some path then
                transcript.logged
              else
                []) ∧
      (draft.verbosity = draft'.verbosity →
        observed.1.messages = other.1.messages) ∧
      (draft.verbosity ≤ draft'.verbosity →
        Thinned
            (transcript.ShownBetween
              (Level.threshold draft'.verbosity)
              (Level.threshold draft.verbosity))
            observed.1.messages other.1.messages ∧
          observed.1.messages.filter isComplaint =
            other.1.messages.filter isComplaint) := by
  intro observed other transcript
  have hOptions := Options.read_of_preamble hPreamble hSome
    hSource hInputs
  have hOptions' := Options.read_of_preamble hPreamble' hSome
    hSource hInputs
  rw [hBudget] at hOptions'
  have hRun := session.run_of_options hSettings hOptions
  have hRun' := session'.run_of_options hSettings' hOptions'
  have hShort :=
    Options.shortBudget_of_read hSettings hOptions
  have hShort' :=
    Options.shortBudget_of_read hSettings' hOptions'
  have hMessages : observed.1.messages =
      transcript.effects.filterMap
        (Effect.messageAt
          (Level.threshold draft.verbosity)) := by
    unfold observed
    rw [hRun, Session.perform_messages hShort]
    rfl
  have hMessages' : other.1.messages =
      transcript.effects.filterMap
        (Effect.messageAt
          (Level.threshold draft'.verbosity)) := by
    unfold other
    rw [hRun', Session.perform_messages hShort']
    rfl
  refine ⟨?_, ?_, ?_, ?_, ?_⟩
  · simp only [observed, other, hRun, hRun',
      Session.perform_output hShort,
      Session.perform_output hShort']
    rfl
  · simp only [observed, other, hRun, hRun',
      Session.perform_ending hShort,
      Session.perform_ending hShort']
    rfl
  · intro path
    simp only [observed, other, hRun, hRun',
      Session.lines_perform hIdle hShort,
      Session.lines_perform hIdle' hShort']
    exact ⟨rfl, rfl⟩
  · intro hSame
    rw [hMessages, hMessages', hSame]
  · intro hLess
    have hThinned := transcript.thinned_messageAt
      (Level.threshold_anti (Int.ofNat_le.mpr hLess))
    rw [hMessages, hMessages']
    refine ⟨hThinned, hThinned.filter_eq ?_⟩
    rintro _ ⟨notice, _, rfl, _⟩
    exact notice.isComplaint_line

/- A quiet run beside a verbose one with a log file. -/
theorem run_undisturbed_by_observation_verbose :
    let quiet := Session.start.run []
      ["{a}-{b:u}", "x-1", "x"]
    let verbose := Session.start.run
      [("FIELDSCAN_VERBOSE", "1")]
      ["-v", "--logfile=log", "{a}-{b:u}", "x-1", "x"]
    let transcript :=
      Transcript.ofRun "{a}-{b:u}" ["x-1", "x"] none
    verbose.1.output = quiet.1.output ∧
      verbose.1.ending = quiet.1.ending ∧
      verbose.2.files.lines "log" = transcript.logged ∧
      Thinned
        (transcript.ShownBetween Level.debugRank
          Level.warningRank)
        quiet.1.messages verbose.1.messages := by
  intro quiet verbose transcript
  have hPreamble : Preamble (.start .initial) []
      (.start .initial) :=
    .done _
  have hPreamble' : Preamble (.start ⟨none, 1⟩)
      ["-v", "--logfile=log"]
      ⟨2, some "log", none, none, none, []⟩ := by
    have hFirst : Argument.read "-v" =
        .ok (.option ⟨"-v", .verbose⟩ none) := by
      decide +kernel
    have hSecond : Argument.read "--logfile=log" =
        .ok (.option ⟨"--logfile", .logFile⟩
          (some "log")) := by
      decide +kernel
    exact .alone hFirst rfl rfl
      (.joined hSecond (by decide +kernel) (.done _))
  have hSettings : Settings.read [] = .ok .initial := rfl
  have hSettings' :
      Settings.read [("FIELDSCAN_VERBOSE", "1")] =
        .ok ⟨none, 1⟩ := by
    decide +kernel
  have hSource : Unhyphenated "{a}-{b:u}" := by
    decide +kernel
  have hRuns := run_undisturbed_by_observation
    Session.idle_start Session.idle_start hSettings
    hSettings' hPreamble hPreamble' rfl
    (List.cons_ne_nil "x-1" ["x"]) hSource
    (by decide +kernel)
  exact ⟨hRuns.1, hRuns.2.1, (hRuns.2.2.1 "log").2,
    (hRuns.2.2.2.2 (by decide)).1⟩

end TextTemplate
