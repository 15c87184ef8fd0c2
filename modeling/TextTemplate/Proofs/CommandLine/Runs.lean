import TextTemplate.CommandLine.Session
import TextTemplate.Proofs.CommandLine.Budgets
import TextTemplate.Proofs.CommandLine.Preamble
import TextTemplate.Proofs.Log.Notices
import TextTemplate.Proofs.Trace

/-
  What a run does with its template and its inputs.

  A run with options that can be read carries out the effects
  of a transcript.  The transcript reads the template and
  then answers one input after another, until a search runs
  out of budget.  All effects are carried out, since the
  budget of a run is never too long to be shown.

  Main declarations:
    * `Transcript.output`
    * `Transcript.notices`
    * `Template.matchAll_cases`
    * `Match.all_cases`
    * `Transcript.ofInputs_cons_cases`
    * `Session.play_of_shown`
    * `Session.play_of_unshown`
    * `Session.run_of_options`
    * `Session.conduct_eq`
    * `Session.perform_output`
-/

------------------------------------------------------------
-- Transcripts
------------------------------------------------------------

namespace TextTemplate

namespace Effect

/- The line, if an effect is one of output. -/
def output? : Effect → Option String
  | .output line => some line
  | .notice _ => none
  | .message _ => none

/- The notice, if an effect is one. -/
def notice? : Effect → Option Notice
  | .notice reported => some reported
  | .output _ => none
  | .message _ => none

end Effect

namespace Transcript

/- The lines of output of a transcript. -/
def output
    (transcript : Transcript) : List String :=
  transcript.effects.filterMap Effect.output?

/- The notices of a transcript. -/
def notices
    (transcript : Transcript) : List Notice :=
  transcript.effects.filterMap Effect.notice?

theorem filterMap_output?_notices
    (notices : List Notice) :
    (notices.map Effect.notice).filterMap Effect.output? =
      [] := by
  simp [Effect.output?, Function.comp_def]

@[simp] theorem output_prepend
    (effects : List Effect)
    (later : Transcript) :
    (later.prepend effects).output =
      effects.filterMap Effect.output? ++ later.output := by
  simp [output, prepend]

@[simp] theorem ending_prepend
    (effects : List Effect)
    (later : Transcript) :
    (later.prepend effects).ending = later.ending :=
  rfl

end Transcript

end TextTemplate

------------------------------------------------------------
-- Answering an Input
------------------------------------------------------------

namespace TextTemplate

/-
  An input gives fields, or does not match, or runs out of
  the budget.
-/
theorem Template.matchAll_cases
    (template : Template)
    (input : String)
    (budget : Option Int) :
    (∃ fields,
      (template.matchAll input budget).result =
        .ok fields) ∨
    (template.matchAll input budget).result =
      .error (.doesNotMatch (Utf8.encode input)) ∨
    ∃ steps,
      (template.matchAll input budget).result =
        .error (.exhausted steps) := by
  rcases Match.concluded template.pieces input budget with
    ⟨last, _, hEnd⟩
  change Match.Concluded template.pieces input budget last
    (template.matchAll input budget).result at hEnd
  generalize (template.matchAll input budget).result =
    result at hEnd ⊢
  cases hEnd with
  | found _ _ => exact .inl ⟨_, rfl⟩
  | failed _ => exact .inr (.inl rfl)
  | exhausted _ _ => exact .inr (.inr ⟨_, rfl⟩)

/- A template that can be read gives one of these outcomes. -/
theorem Match.all_cases
    {source : String}
    {template : Template}
    (hParse : Template.parse source = .ok template)
    (input : String)
    (budget : Option Int) :
    (∃ fields,
      (all source input budget).result = .ok fields) ∨
    (all source input budget).result =
      .error (.unmatched
        (.doesNotMatch (Utf8.encode input))) ∨
    ∃ steps,
      (all source input budget).result =
        .error (.unmatched (.exhausted steps)) := by
  have hAll :
      (all source input budget).result =
        (template.matchAll input budget).result.mapError
          .unmatched :=
    all_of_read hParse input budget
  rw [hAll]
  rcases template.matchAll_cases input budget with
    ⟨fields, hResult⟩ | hResult | ⟨steps, hResult⟩
  · rw [hResult]
    exact .inl ⟨fields, rfl⟩
  · rw [hResult]
    exact .inr (.inl rfl)
  · rw [hResult]
    exact .inr (.inr ⟨steps, rfl⟩)

namespace Transcript

/-
  An input is answered by its fields, or is refused, or ends
  the transcript.
-/
theorem ofInputs_cons_cases
    (template : Template)
    (budget : Option Int)
    (status : Nat)
    (input : String)
    (later : List LooseText) :
    let matched := template.matchAll input budget
    let begun := matched.notices.map Effect.notice
    let transcript :=
      ofInputs template budget status
        (.ofString input :: later)
    (∃ fields,
      matched.result = .ok fields ∧
        transcript =
          (ofInputs template budget status later).prepend
            (begun ++ [.output fields.line])) ∨
    (matched.result =
        .error (.doesNotMatch (Utf8.encode input)) ∧
      transcript =
        (ofInputs template budget noMatchStatus
          later).prepend
          (begun ++
            [.notice (.inputRefused input),
              .output Value.null.json])) ∨
    (∃ steps,
      matched.result = .error (.exhausted steps) ∧
        transcript =
          ⟨begun ++ [.message (exhaustedMessage steps)],
            .status errorStatus⟩) := by
  intro matched begun transcript
  rcases template.matchAll_cases input budget with
    ⟨fields, hResult⟩ | hResult | ⟨steps, hResult⟩
  · refine .inl ⟨fields, hResult, ?_⟩
    simp only [transcript, begun, ofInputs,
      LooseText.toString?_ofString]
    rw [hResult]
  · refine .inr (.inl ⟨hResult, ?_⟩)
    simp only [transcript, begun, ofInputs,
      LooseText.toString?_ofString]
    rw [hResult]
  · refine .inr (.inr ⟨steps, hResult, ?_⟩)
    simp only [transcript, begun, ofInputs,
      LooseText.toString?_ofString]
    rw [hResult]

/- An input without an encoding is not handled. -/
theorem ofInputs_cons_of_unencodable
    {input : LooseText}
    (hInput : input.toString? = none)
    (template : Template)
    (budget : Option Int)
    (status : Nat)
    (later : List LooseText) :
    ofInputs template budget status (input :: later) =
      ⟨[], .unhandled (.unencodable input)⟩ := by
  rw [ofInputs]
  simp only [hInput]

/- A template that can be read has its inputs answered. -/
theorem ofAny_of_read
    {source : String}
    {template : Template}
    (hParse : Template.parse source = .ok template)
    (inputs : List LooseText)
    (budget : Option Int) :
    ofAny source inputs budget =
      (ofInputs template budget okStatus inputs).prepend
        ((Notice.runStarted source ::
          (Parsing.ofText source).notices source).map
            .notice) := by
  unfold Template.parse at hParse
  unfold ofAny Template.parseTraced
  simp only [hParse]

/- A malformed template is refused. -/
theorem ofAny_of_malformed
    {source : String}
    {error : TemplateError}
    (hParse :
      Template.parse source = .error (.malformed error))
    (inputs : List LooseText)
    (budget : Option Int) :
    ofAny source inputs budget =
      ⟨(Notice.runStarted source ::
          (Parsing.ofText source).notices source).map
            .notice ++
          [.notice (.templateRefused error),
            .message (malformedMessage error)],
        .status errorStatus⟩ := by
  unfold Template.parse at hParse
  unfold ofAny Template.parseTraced
  simp only [hParse]

/- A length of too many digits is not handled. -/
theorem ofAny_of_lengthTooLong
    {source : String}
    {digits : Nat}
    (hParse :
      Template.parse source =
        .error (.lengthTooLong digits))
    (inputs : List LooseText)
    (budget : Option Int) :
    (ofAny source inputs budget).ending =
      .unhandled (.unread (.lengthTooLong digits)) := by
  unfold Template.parse at hParse
  unfold ofAny Template.parseTraced
  simp only [hParse]

end Transcript

end TextTemplate

------------------------------------------------------------
-- Budgets of Transcripts
------------------------------------------------------------

namespace TextTemplate

/- A match tells a long budget if it has one. -/
theorem Match.any_isLong_pieces
    (pieces : List Piece)
    (data : ByteArray)
    (budget : Option Int) :
    (Match.pieces pieces data budget).notices.any
        Notice.isLong =
      budget.any Numeral.isLong := by
  have hLast :
      ∀ ended : Outcome × Search,
        (conclude pieces data ⟨pieces.length, data.size⟩
          ended).1.isLong = false := by
    rintro ⟨_ | _ | _, _⟩ <;> rfl
  have hFirst :
      ∀ extent,
        (Notice.matchBegun extent budget).isLong =
          budget.any Numeral.isLong := by
    intro extent
    cases budget <;> rfl
  rw [Match.pieces, List.any_cons, List.any_cons, hFirst,
    hLast, List.any_nil, Bool.or_false, Bool.or_false]

/- What is reported of a template has no budget. -/
theorem Parsing.any_isLong_notices
    (source : String)
    (parsing : Parsing) :
    (parsing.notices source).any Notice.isLong = false := by
  have hParts :
      (parsing.parts.map Notice.partRead).any
        Notice.isLong = false := by
    rw [List.any_map, List.any_eq_false]
    exact fun _ _ => Bool.false_ne_true
  rw [notices, List.any_append, hParts]
  cases parsing.error <;> rfl

namespace Effect

/- Whether an effect is a notice that cannot be shown. -/
def isLong : Effect → Bool
  | .notice reported => reported.isLong
  | .output _ => false
  | .message _ => false

theorem any_isLong_notices
    (notices : List Notice) :
    (notices.map Effect.notice).any isLong =
      notices.any Notice.isLong :=
  List.any_map

end Effect

namespace Transcript

variable {budget : Option Int}

/- With a short budget all answers of inputs can be shown. -/
theorem any_isLong_ofInputs
    (hBudget : ShortBudget budget)
    (template : Template)
    (status : Nat)
    (inputs : List LooseText) :
    (ofInputs template budget status inputs).effects.any
        Effect.isLong =
      false := by
  have hShort : budget.any Numeral.isLong = false := by
    cases budget with
    | none => rfl
    | some limit => exact hBudget limit rfl
  have hBegun (input : String) :
      ((template.matchAll input budget).notices.map
          Effect.notice).any Effect.isLong = false := by
    rw [Effect.any_isLong_notices, Template.matchAll,
      Match.any_isLong_pieces, hShort]
  induction inputs generalizing status with
  | nil => rfl
  | cons input later ih =>
      cases hInput : input.toString? with
      | none =>
          rw [ofInputs_cons_of_unencodable hInput]
          rfl
      | some text =>
          rw [LooseText.eq_of_toString? hInput]
          rcases ofInputs_cons_cases template budget status
              text later with
            ⟨fields, _, hCons⟩ | ⟨_, hCons⟩ |
            ⟨steps, _, hCons⟩
          all_goals rw [hCons]
          · rw [prepend, List.any_append, List.any_append,
              hBegun, ih]
            rfl
          · rw [prepend, List.any_append, List.any_append,
              hBegun, ih]
            rfl
          · rw [List.any_append, hBegun]
            rfl

/- With a short budget all effects of a run can be shown. -/
theorem any_isLong_ofAny
    (hBudget : ShortBudget budget)
    (source : String)
    (inputs : List LooseText) :
    (ofAny source inputs budget).effects.any Effect.isLong =
      false := by
  have hBegun :
      ((Notice.runStarted source ::
          (Template.parseTraced source).notices).map
            Effect.notice).any Effect.isLong = false := by
    rw [Effect.any_isLong_notices, List.any_cons,
      Template.parseTraced, Parsing.any_isLong_notices]
    rfl
  unfold ofAny
  simp only
  split
  · rw [prepend, List.any_append, hBegun,
      any_isLong_ofInputs hBudget]
    rfl
  · rw [List.any_append, hBegun]
    rfl
  · exact hBegun

end Transcript

end TextTemplate

------------------------------------------------------------
-- Carrying Out Effects
------------------------------------------------------------

namespace TextTemplate

namespace Effect

/- What is shown of an effect from a rank on. -/
def shownAt
    (threshold : Int) : Effect → Option Shown
  | .notice reported =>
      if Level.rank reported.level < threshold then
        none
      else
        some (.message reported.line)
  | .output line => some (.output line)
  | .message line => some (.message line)

/- Whether an effect should be shown, but cannot be. -/
def isUnshown
    (threshold : Int) : Effect → Bool
  | .notice reported =>
      decide (threshold ≤ Level.rank reported.level) &&
        reported.isLong
  | .output _ => false
  | .message _ => false

/- Only an effect that is too long cannot be shown. -/
theorem isUnshown_of_isLong
    (threshold : Int)
    {effect : Effect}
    (hShort : effect.isLong = false) :
    effect.isUnshown threshold = false := by
  cases effect with
  | notice reported =>
      rw [isUnshown]
      rw [isLong] at hShort
      rw [hShort, Bool.and_false]
  | output line => rfl
  | message line => rfl

end Effect

namespace Session

/- The session after an effect. -/
def record
    (session : Session) : Effect → Session
  | .notice reported =>
      (session.log reported.level reported.event).2
  | .output _ => session
  | .message _ => session

theorem threshold_write
    (session : Session)
    (event : Event)
    (number : Nat) :
    (session.write event number).threshold =
      session.threshold := by
  unfold write
  cases session.writers[number]? with
  | none => rfl
  | some writer =>
      simp only
      split <;> rfl

/- To log an event does not change what is shown. -/
theorem threshold_log
    (session : Session)
    (level : String)
    (event : Event) :
    (session.log level event).2.threshold =
      session.threshold := by
  have hWrites :
      ∀ (calls : List (Call Nat)) (handed : Session),
        (calls.foldl
          (fun session call =>
            session.write call.event call.handler)
          handed).threshold = handed.threshold := by
    intro calls
    induction calls with
    | nil => exact fun _ => rfl
    | cons call later ih =>
        intro handed
        rw [List.foldl_cons, ih, threshold_write]
  exact hWrites _ _

theorem threshold_record
    (session : Session)
    (effect : Effect) :
    (session.record effect).threshold =
      session.threshold := by
  cases effect with
  | notice reported => exact session.threshold_log _ _
  | output line => rfl
  | message line => rfl

/-
  An effect is recorded, and then it is shown, or not if it
  cannot be.
-/
theorem carryOut_eq
    (session : Session)
    (effect : Effect) :
    session.carryOut effect =
      if effect.isUnshown session.threshold then
        ⟨[], some .longNumber, session.record effect⟩
      else
        ⟨(effect.shownAt session.threshold).toList, none,
          session.record effect⟩ := by
  cases effect with
  | output line => rfl
  | message line => rfl
  | notice reported =>
      have hLine :=
        reported.ofEvent_eq session.threshold
      have hEvent :
          (session.log reported.level
            reported.event).1.event = reported.event := rfl
      rw [carryOut, hEvent, hLine]
      simp only [Effect.isUnshown, Effect.shownAt, record]
      by_cases hRank :
          Level.rank reported.level < session.threshold
      · simp [hRank]
      · have hShown := Int.not_lt.mp hRank
        by_cases hLong : reported.isLong = true <;>
          simp [hRank, hShown, hLong]

/- Effects that can be shown are all carried out. -/
theorem play_of_shown
    {session : Session}
    {effects : List Effect}
    (hShown :
      effects.any (Effect.isUnshown session.threshold) =
        false) :
    session.play effects =
      ⟨effects.filterMap (Effect.shownAt session.threshold),
        none, effects.foldl record session⟩ := by
  induction effects generalizing session with
  | nil => rfl
  | cons effect later ih =>
      rw [List.any_cons, Bool.or_eq_false_iff] at hShown
      have hLater := hShown.2
      rw [← session.threshold_record effect] at hLater
      rw [play, carryOut_eq, hShown.1]
      simp only [Bool.false_eq_true, if_false, ih hLater,
        threshold_record, List.foldl_cons]
      cases hFirst : effect.shownAt session.threshold <;>
        simp [hFirst]

/- Effects are broken off by one that cannot be shown. -/
theorem play_of_unshown
    {session : Session}
    {effects : List Effect}
    (hUnshown :
      effects.any (Effect.isUnshown session.threshold) =
        true) :
    (session.play effects).failure = some .longNumber := by
  induction effects generalizing session with
  | nil => exact nomatch hUnshown
  | cons effect later ih =>
      rw [List.any_cons] at hUnshown
      rw [play, carryOut_eq]
      cases hFirst : effect.isUnshown session.threshold with
      | true => rfl
      | false =>
          rw [hFirst, Bool.false_or,
            ← session.threshold_record effect] at hUnshown
          exact ih hUnshown

end Session

end TextTemplate

------------------------------------------------------------
-- Runs
------------------------------------------------------------

namespace TextTemplate

namespace Session

/- The transcript that options ask for. -/
def transcriptOf
    (options : Options) : Transcript :=
  .ofRun options.template options.inputs options.maxSteps

/- A run does what its options ask for. -/
theorem run_of_options
    {environment : Environment}
    {settings : Settings}
    (hSettings : Settings.read environment = .ok settings)
    {arguments : List String}
    {options : Options}
    (hOptions :
      Options.read settings arguments = .ok options)
    (session : Session) :
    session.run environment arguments =
      session.perform options := by
  rw [run, hSettings]
  simp only [hOptions]

/- A run without settings is refused. -/
theorem run_of_no_settings
    (session : Session)
    {environment : Environment}
    {error : SettingError}
    (hSettings : Settings.read environment = .error error)
    (arguments : List String) :
    session.run environment arguments =
      (refuse [settingMessage error], session) := by
  simp only [run, hSettings]

/- The session of a run before its effects. -/
theorem threshold_configure
    (session : Session)
    (options : Options) :
    (session.configure options).2.threshold =
      Level.threshold options.verbosity := by
  unfold configure
  cases options.logFile <;> rfl

variable {options : Options}

/- A run carries out all effects that can be shown. -/
theorem play_configure
    {effects : List Effect}
    (hShort : effects.any Effect.isLong = false)
    (session : Session) :
    let configured := (session.configure options).2
    configured.play effects =
      ⟨effects.filterMap
          (Effect.shownAt
            (Level.threshold options.verbosity)),
        none, effects.foldl record configured⟩ := by
  intro configured
  rw [play_of_shown, threshold_configure]
  rw [List.any_eq_false] at hShort ⊢
  intro effect hEffect
  rw [Effect.isUnshown_of_isLong _
    (Bool.eq_false_of_not_eq_true (hShort effect hEffect))]
  exact Bool.false_ne_true

/- A transcript whose effects can be shown is carried out. -/
theorem conduct_eq
    {transcript : Transcript}
    (hShort :
      transcript.effects.any Effect.isLong = false)
    (session : Session) :
    session.conduct options transcript =
      (⟨transcript.effects.filterMap
            (Effect.shownAt
              (Level.threshold options.verbosity)),
          transcript.ending⟩,
        (transcript.effects.foldl record
          (session.configure options).2).release
            (session.configure options).1) := by
  have hPlayed :
      (session.configure options).2.play
          transcript.effects = _ :=
    play_configure hShort session
  unfold conduct
  simp only [hPlayed]
  rfl

/- A run with a short budget carries all its effects out. -/
theorem perform_eq
    (hBudget : ShortBudget options.maxSteps)
    (session : Session) :
    session.perform options =
      (⟨(transcriptOf options).effects.filterMap
            (Effect.shownAt
              (Level.threshold options.verbosity)),
          (transcriptOf options).ending⟩,
        ((transcriptOf options).effects.foldl record
          (session.configure options).2).release
            (session.configure options).1) :=
  conduct_eq (Transcript.any_isLong_ofAny hBudget _ _)
    session

/- A run shows its effects at the verbosity that is asked for. -/
theorem perform_shown
    (hBudget : ShortBudget options.maxSteps)
    (session : Session) :
    (session.perform options).1.shown =
      (transcriptOf options).effects.filterMap
        (Effect.shownAt
          (Level.threshold options.verbosity)) := by
  rw [perform_eq hBudget]

/- The output of a run is that of its transcript. -/
theorem perform_output
    (hBudget : ShortBudget options.maxSteps)
    (session : Session) :
    (session.perform options).1.output =
      (transcriptOf options).output := by
  rw [RunResult.output, perform_shown hBudget,
    List.filterMap_filterMap, Transcript.output]
  congr 1
  funext effect
  cases effect with
  | notice reported =>
      rw [Effect.shownAt]
      split <;> rfl
  | output line => rfl
  | message line => rfl

/- A run ends as its transcript does. -/
theorem perform_ending
    (hBudget : ShortBudget options.maxSteps)
    (session : Session) :
    (session.perform options).1.ending =
      (transcriptOf options).ending := by
  rw [perform_eq hBudget]

/- With any texts as inputs a run ends as its transcript does. -/
theorem performAny_ending
    (hBudget : ShortBudget options.maxSteps)
    (session : Session)
    (inputs : List LooseText) :
    (session.performAny options inputs).1.ending =
      (Transcript.ofAny options.template inputs
        options.maxSteps).ending := by
  rw [performAny,
    conduct_eq (Transcript.any_isLong_ofAny hBudget _ _)]

/- After a run its effects are recorded and its writer is given up. -/
theorem perform_session
    (hBudget : ShortBudget options.maxSteps)
    (session : Session) :
    (session.perform options).2 =
      ((transcriptOf options).effects.foldl record
        (session.configure options).2).release
          (session.configure options).1 := by
  rw [perform_eq hBudget]

end Session

end TextTemplate
