import TextTemplate.Proofs.CommandLine.Preamble
import TextTemplate.Proofs.CommandLine.Runs
import TextTemplate.Proofs.Value.Json

/-
  What a run prints and with which status it ends.

  Each input is answered on a line of its own, by its fields
  in JSON or by null, until a search runs out of budget.
  Different answers are different lines, and a line is made
  of printable ASCII.

  Main declarations:
    * `answerLine`
    * `answerLine_injective`
    * `RunResult.outputText`
    * `RunResult.Answers`
    * `Transcript.statusAfter`
    * `Transcript.ofInputs_answers`
    * `run_answers_inputs`
-/

------------------------------------------------------------
-- Lines of Answers
------------------------------------------------------------

namespace TextTemplate

/- What an input is answered by: its fields, or nothing. -/
def answerValue : Option Fields → Value
  | some fields =>
      .record (fields.entries.map fun entry =>
        (entry.1, .text entry.2))
  | none => .null

/- The line that answers an input. -/
def answerLine
    (answer : Option Fields) : String :=
  (answerValue answer).json

theorem answerLine_some
    (fields : Fields) :
    answerLine (some fields) = fields.line :=
  rfl

theorem answerLine_none :
    answerLine none = Value.null.json :=
  rfl

theorem written_answerValue
    (answer : Option Fields) :
    (answerValue answer).written = answerValue answer := by
  cases answer with
  | none => rfl
  | some fields =>
      have hEntries : ∀ entries : List (String × String),
          Value.writtenEntries
              (entries.map fun entry =>
                ((entry.1 : Key), Value.text entry.2)) =
            entries.map fun entry =>
              ((entry.1 : Key), Value.text entry.2) := by
        intro entries
        induction entries with
        | nil => rfl
        | cons entry later ih =>
            rw [List.map_cons, Value.writtenEntries, ih,
              Key.name, Value.written,
              LooseText.joined_ofString,
              LooseText.joined_ofString]
      rw [answerValue, Value.written, hEntries]

theorem answerValue_injective :
    Function.Injective answerValue := by
  have hTexts : Function.Injective
      fun entry : String × String =>
        ((entry.1 : Key), Value.text entry.2) := by
    rintro ⟨name, text⟩ ⟨name', text'⟩ hSame
    rcases Prod.mk.inj hSame with ⟨hName, hText⟩
    obtain rfl := LooseText.ofString_injective
      (Key.text.inj hName)
    obtain rfl := LooseText.ofString_injective
      (Value.text.inj hText)
    rfl
  rintro (_ | fields) (_ | fields') hSame
  · rfl
  · exact nomatch hSame
  · exact nomatch hSame
  · have hEntries := List.map_injective_iff.mpr hTexts
      (Value.record.inj hSame)
    rcases fields with ⟨entries, hAscending⟩
    obtain rfl : entries = fields'.entries := hEntries
    rfl

/- Different answers are different lines. -/
theorem answerLine_injective :
    Function.Injective answerLine := by
  intro answer other hLine
  have hWritten := Value.json_eq_iff.mp hLine
  rw [written_answerValue, written_answerValue] at hWritten
  exact answerValue_injective hWritten

/- An answer is a line of printable ASCII. -/
theorem printable_answerLine
    (answer : Option Fields) :
    ∀ c ∈ (answerLine answer).toList, Json.Printable c :=
  (answerValue answer).printable_json

end TextTemplate

------------------------------------------------------------
-- Printed Text
------------------------------------------------------------

namespace TextTemplate

namespace RunResult

/- The text of the output, in which a line end follows each line. -/
def outputText
    (result : RunResult) : String :=
  String.join (result.output.map (· ++ "\n"))

end RunResult

end TextTemplate

------------------------------------------------------------
-- Answered Inputs
------------------------------------------------------------

namespace TextTemplate

namespace Match

/- Whether a match ran out of its budget. -/
def isExhausted : Except Failure Fields → Bool
  | .error (.unmatched (.exhausted _)) => true
  | _ => false

/- Whether a match found that the input does not match. -/
def isMismatch : Except Failure Fields → Bool
  | .error (.unmatched (.doesNotMatch _)) => true
  | _ => false

/- The inputs before the first that exhausts the budget. -/
def answered
    (outcome : String → Except Failure Fields)
    (inputs : List String) : List String :=
  inputs.takeWhile fun input =>
    !isExhausted (outcome input)

/- An exhausted budget leaves later inputs unanswered. -/
theorem answered_cons
    (outcome : String → Except Failure Fields)
    (input : String)
    (later : List String) :
    answered outcome (input :: later) =
      if isExhausted (outcome input) then
        []
      else
        input :: answered outcome later := by
  cases hInput : isExhausted (outcome input) <;>
    simp [answered, hInput]

end Match

namespace Transcript

open Match
  (answered answered_cons isExhausted isMismatch)

variable {outcome : String → Except Failure Fields}

/-
  The status after inputs with some outcomes: that of an
  error if one of them exhausts the budget, else that of no
  match if one of them does not match, else the one before.
-/
def statusAfter
    (outcome : String → Except Failure Fields)
    (status : Nat)
    (inputs : List String) : Nat :=
  if (answered outcome inputs).length < inputs.length then
    errorStatus
  else if inputs.any fun input =>
      isMismatch (outcome input) then
    noMatchStatus
  else
    status

/- An input that is decided changes the status at most. -/
theorem statusAfter_cons
    {input : String}
    (hDecided : isExhausted (outcome input) = false)
    (status : Nat)
    (later : List String) :
    statusAfter outcome status (input :: later) =
      statusAfter outcome
        (if isMismatch (outcome input) then
          noMatchStatus
        else
          status)
        later := by
  simp only [statusAfter, answered_cons, hDecided,
    Bool.false_eq_true, if_false, List.length_cons,
    Nat.add_lt_add_iff_right, List.any_cons]
  by_cases hMismatch : isMismatch (outcome input) = true
  · simp [hMismatch]
  · simp [hMismatch]

/- An input that is not decided makes the status final. -/
theorem statusAfter_of_exhausted
    {input : String}
    (hExhausted : isExhausted (outcome input) = true)
    (status : Nat)
    (later : List String) :
    statusAfter outcome status (input :: later) =
      errorStatus := by
  simp [statusAfter, answered_cons, hExhausted]

/-
  Whether a transcript prints the answers of inputs and ends
  with the status after them.
-/
structure Answers
    (transcript : Transcript)
    (outcome : String → Except Failure Fields)
    (status : Nat)
    (inputs : List String) : Prop where
  output :
    transcript.output =
      (answered outcome inputs).map fun input =>
        answerLine (outcome input).toOption
  ending :
    transcript.ending =
      .status (statusAfter outcome status inputs)

/- The answer of an input comes before those of later ones. -/
theorem Answers.prepend
    {later : Transcript}
    {inputs : List String}
    {input : String}
    {status : Nat}
    (hDecided : isExhausted (outcome input) = false)
    {effects : List Effect}
    (hLine :
      effects.filterMap Effect.output? =
        [answerLine (outcome input).toOption])
    (hLater :
      later.Answers outcome
        (if isMismatch (outcome input) then
          noMatchStatus
        else
          status)
        inputs) :
    (later.prepend effects).Answers outcome status
      (input :: inputs) := by
  constructor
  · rw [output_prepend, hLine, hLater.output, answered_cons,
      hDecided]
    rfl
  · rw [ending_prepend, hLater.ending,
      statusAfter_cons hDecided]

/-
  The inputs are answered in order until a match runs out of
  its budget.
-/
theorem ofInputs_answers
    {template : Template}
    {budget : Option Int}
    (hOutcome : ∀ input,
      outcome input =
        (template.matchAll input budget).result.mapError
          .unmatched)
    (status : Nat)
    (inputs : List String) :
    (ofInputs template budget status
        (inputs.map .ofString)).Answers outcome
      status inputs := by
  induction inputs generalizing status with
  | nil => exact ⟨rfl, rfl⟩
  | cons input later ih =>
      have hInput := hOutcome input
      rw [List.map_cons]
      rcases ofInputs_cons_cases template budget status input
          (later.map .ofString) with
        ⟨fields, hResult, hCons⟩ | ⟨hResult, hCons⟩ |
        ⟨steps, hResult, hCons⟩
      · replace hInput : outcome input = .ok fields := by
          rw [hInput, hResult]
          rfl
        rw [hCons]
        refine .prepend (by rw [hInput]; rfl) ?_ ?_
        · rw [List.filterMap_append,
            filterMap_output?_notices, hInput]
          exact congrArg (· :: []) (answerLine_some fields).symm
        · rw [hInput]
          exact ih status
      · replace hInput : outcome input =
            .error (.unmatched
              (.doesNotMatch (Utf8.encode input))) := by
          rw [hInput, hResult]
          rfl
        rw [hCons]
        refine .prepend (by rw [hInput]; rfl) ?_ ?_
        · rw [List.filterMap_append,
            filterMap_output?_notices, hInput]
          exact congrArg (· :: []) answerLine_none.symm
        · rw [hInput]
          exact ih noMatchStatus
      · have hExhausted : isExhausted (outcome input) =
            true := by
          rw [hInput, hResult]
          rfl
        rw [hCons]
        constructor
        · rw [output, List.filterMap_append,
            filterMap_output?_notices, answered_cons,
            if_pos hExhausted]
          rfl
        · rw [statusAfter_of_exhausted hExhausted]

end Transcript

end TextTemplate

------------------------------------------------------------
-- Answers of a Run
------------------------------------------------------------

namespace TextTemplate

open Match (answered isExhausted isMismatch)

/-
  Whether a run answers inputs, whose matches have certain
  outcomes, line by line: each answered input by a line of
  its own, from which the answer can be told.
-/
structure RunResult.Answers
    (result : RunResult)
    (outcome : String → Except Failure Fields)
    (inputs : List String) : Prop where
  decided : ∀ input ∈ answered outcome inputs,
    (∃ fields, outcome input = .ok fields) ∨
      isMismatch (outcome input) = true
  output :
    result.output =
      (answered outcome inputs).map fun input =>
        answerLine (outcome input).toOption
  lines :
    Split.parts '\n' result.outputText.toList =
      result.output.map String.toList ++ [[]]
  printable : ∀ line ∈ result.output,
    ∀ c ∈ line.toList, Json.Printable c
  telling : ∀ input ∈ answered outcome inputs,
    ∀ other ∈ answered outcome inputs,
      answerLine (outcome input).toOption =
          answerLine (outcome other).toOption →
        (outcome input).toOption =
          (outcome other).toOption
  ending :
    result.ending =
      .status
        (Transcript.statusAfter outcome Transcript.okStatus
          inputs)

/- Output and ending are all that the answers depend on. -/
theorem RunResult.Answers.ofInputs
    {source : String}
    {template : Template}
    (hParse : Template.parse source = .ok template)
    {budget : Option Int}
    {inputs : List String}
    {result : RunResult}
    (hOutput :
      result.output =
        (Transcript.ofRun source inputs budget).output)
    (hEnding :
      result.ending =
        (Transcript.ofRun source inputs budget).ending) :
    result.Answers
      (fun input => (Match.all source input budget).result)
      inputs := by
  have hAnswers := Transcript.ofInputs_answers
    (fun input => Match.all_of_read hParse input budget)
    Transcript.okStatus inputs
  rw [Transcript.ofRun, Transcript.ofAny_of_read hParse,
    Transcript.output_prepend,
    Transcript.filterMap_output?_notices,
    List.nil_append, hAnswers.output] at hOutput
  rw [Transcript.ofRun, Transcript.ofAny_of_read hParse,
    Transcript.ending_prepend, hAnswers.ending] at hEnding
  have hPrintable : ∀ line ∈ result.output,
      ∀ c ∈ line.toList, Json.Printable c := by
    intro line hLine
    rw [hOutput] at hLine
    rcases List.mem_map.mp hLine with ⟨input, _, rfl⟩
    exact printable_answerLine _
  refine
    { decided := ?_
      output := hOutput
      lines := ?_
      printable := hPrintable
      telling := ?_
      ending := hEnding }
  · intro input hInput
    have hDecided := List.mem_takeWhile_imp hInput
    simp only [Bool.not_eq_true'] at hDecided
    rcases Match.all_cases hParse input budget with
      hFields | hMismatch | ⟨steps, hExhausted⟩
    · exact .inl hFields
    · right
      rw [hMismatch]
      rfl
    · rw [hExhausted] at hDecided
      exact nomatch hDecided
  · exact Split.parts_lines fun line hLine =>
      Json.lineEnd_not_mem (hPrintable line hLine)
  · intro input _ other _ hLine
    exact answerLine_injective hLine

/-
  After a preamble of options, a run with a malformed
  template prints nothing and ends with the status of an
  error.  A run with a template that can be read answers its
  inputs.
-/
theorem run_answers_inputs
    {environment : Environment}
    {settings : Settings}
    (hSettings : Settings.read environment = .ok settings)
    {words : List String}
    {draft : Draft}
    (hPreamble : Preamble (.start settings) words draft)
    {source : String}
    {inputs : List String}
    (hSome : inputs ≠ [])
    (hSource : Unhyphenated source)
    (hInputs : ∀ input ∈ inputs, Unhyphenated input)
    (session : Session) :
    let result :=
      (session.run environment
        (words ++ source :: inputs)).1
    (∀ error,
      Template.parse source = .error (.malformed error) →
        result.outputText = "" ∧
          result.ending =
            .status Transcript.errorStatus) ∧
    (∀ template,
      Template.parse source = .ok template →
        result.Answers
          (fun input =>
            (Match.all source input draft.maxSteps).result)
          inputs) := by
  intro result
  have hOptions := Options.read_of_preamble hPreamble hSome
    hSource hInputs
  have hRun := session.run_of_options hSettings hOptions
  have hShort :=
    Options.shortBudget_of_read hSettings hOptions
  have hOutput : result.output =
      (Transcript.ofRun source inputs
        draft.maxSteps).output := by
    unfold result
    rw [hRun, Session.perform_output hShort]
    rfl
  have hEnding : result.ending =
      (Transcript.ofRun source inputs
        draft.maxSteps).ending := by
    unfold result
    rw [hRun, Session.perform_ending hShort]
    rfl
  constructor
  · intro error hParse
    rw [Transcript.ofRun,
      Transcript.ofAny_of_malformed hParse]
      at hOutput hEnding
    have hNone : result.output = [] := by
      rw [hOutput, Transcript.output,
        List.filterMap_append,
        Transcript.filterMap_output?_notices]
      rfl
    refine ⟨?_, hEnding⟩
    rw [RunResult.outputText, hNone]
    rfl
  · intro template hParse
    exact .ofInputs hParse hOutput hEnding

/- One input of three is answered by fields, one by null. -/
theorem run_answers_inputs_three :
    let result := (Session.start.run []
      ["--max-steps=4", "{a}-{b:u}", "x-1", "x",
        "x-y-z-"]).1
    result.output =
        ["\x7b\"a\": \"x\", \"b\": \"1\"\x7d", "null"] ∧
      result.ending = .status 2 := by
  intro result
  have hSettings : Settings.read [] = .ok .initial := rfl
  have hPreamble : Preamble (.start .initial)
      ["--max-steps=4"]
      { Draft.start .initial with maxSteps := some 4 } := by
    have hWord : Argument.read "--max-steps=4" =
        .ok (.option ⟨"--max-steps", .maxSteps⟩
          (some "4")) := by
      decide +kernel
    have hApply :
        (Draft.start .initial).applyJoined
            ⟨"--max-steps", .maxSteps⟩ "4" =
          .ok { Draft.start .initial with
            maxSteps := some 4 } := by
      decide +kernel
    exact .joined hWord hApply (.done _)
  have hParse :
      Template.parse "{a}-{b:u}" =
        .ok
          ⟨"{a}-{b:u}",
            (Parsing.ofText "{a}-{b:u}").parts.map
              Part.piece⟩ :=
    Template.parse_eq_ok_iff.mpr ⟨by decide +kernel, rfl⟩
  have hAnswers := (run_answers_inputs hSettings hPreamble
    (List.cons_ne_nil "x-1" ["x", "x-y-z-"])
    (by decide +kernel) (by decide +kernel)
    Session.start).2 _ hParse
  constructor
  · refine hAnswers.output.trans ?_
    decide +kernel
  · refine hAnswers.ending.trans ?_
    decide +kernel

end TextTemplate
