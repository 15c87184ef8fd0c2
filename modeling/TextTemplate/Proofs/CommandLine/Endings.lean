import TextTemplate.Proofs.CommandLine.Answers
import TextTemplate.Proofs.Template.Fault

/-
  Which failures a match and a run can end with.

  A match gives fields or fails in a documented way, apart
  from three cases.  The first fault of the template is a
  length of too many digits, which is not refused as
  malformed; the input has no encoding; or the budget has too
  many digits to be shown, although details are shown.  The
  budget of a run is never such a one, so a run over texts
  with an encoding ends with a status, unless its template
  has such a length.

  Main declarations:
    * `Failure.IsDocumented`
    * `Match.Documented`
    * `Template.Overlong`
    * `Template.overlong_iff_parse`
    * `Match.any_ofString`
    * `Session.matchAny_result`
    * `Session.matchAny_documented_iff`
    * `Match.Encodable`
    * `Transcript.ofAny_ending_iff`
    * `failures_documented_iff`
-/

------------------------------------------------------------
-- Documented Failures
------------------------------------------------------------

namespace TextTemplate

/- Whether a failure is of one of the documented kinds. -/
def Failure.IsDocumented
    (failure : Failure) : Prop :=
  ∃ kind, failure.kind? = some kind ∧
    (kind.isMalformedTemplate = true ∨
      kind = .doesNotMatch ∨ kind = .searchExhausted)

/- A breach of the grammar is a malformed template. -/
theorem TemplateError.isMalformedTemplate_kind
    (error : TemplateError) :
    error.kind.isMalformedTemplate = true := by
  cases error <;>
    simp [kind, FailureKind.isMalformedTemplate,
      FailureKind.lineage, FailureKind.parent?]

namespace Failure

theorem isDocumented_malformed
    (error : TemplateError) :
    (unread (.malformed error)).IsDocumented :=
  ⟨error.kind, rfl,
    .inl error.isMalformedTemplate_kind⟩

theorem isDocumented_doesNotMatch
    (data : ByteArray) :
    (unmatched (.doesNotMatch data)).IsDocumented :=
  ⟨.doesNotMatch, rfl, .inr (.inl rfl)⟩

theorem isDocumented_exhausted
    (steps : Nat) :
    (unmatched (.exhausted steps)).IsDocumented :=
  ⟨.searchExhausted, rfl, .inr (.inr rfl)⟩

/- A failure without a kind is not documented. -/
theorem not_isDocumented_of_kind?
    {failure : Failure}
    (hKind : failure.kind? = none) :
    ¬ failure.IsDocumented := by
  rintro ⟨kind, hSome, _⟩
  rw [hKind] at hSome
  exact nomatch hSome

/- A length of too many digits is of no kind. -/
theorem not_isDocumented_lengthTooLong
    (digits : Nat) :
    ¬ (unread (.lengthTooLong digits)).IsDocumented :=
  not_isDocumented_of_kind? rfl

end Failure

/- Whether a match gives fields or fails as documented. -/
def Match.Documented
    (result : Except Failure Fields) : Prop :=
  (∃ fields, result = .ok fields) ∨
    ∃ failure, result = .error failure ∧
      failure.IsDocumented

/- A failure is documented as the result of a match. -/
theorem Match.documented_error_iff
    {failure : Failure} :
    Documented (.error failure) ↔ failure.IsDocumented := by
  constructor
  · rintro (⟨fields, hFields⟩ | ⟨other, hOther, hKind⟩)
    · exact nomatch hFields
    · rw [Except.error.inj hOther]
      exact hKind
  · exact fun hKind => .inr ⟨failure, rfl, hKind⟩

end TextTemplate

------------------------------------------------------------
-- Overlong Templates
------------------------------------------------------------

namespace TextTemplate

namespace Template

/- The text between the braces of a token with a length. -/
def sizedInside
    (name : Entry)
    (code : TypeCode)
    (digits : List Char) : List Char :=
  name.chars ++ ':' :: (code.chars ++ ':' :: digits)

/-
  A template with a length of too many digits, before which
  there is nothing wrong.
-/
inductive Overlong : String → Prop where
  | intro
      {before : String}
      (hBefore : ∃ template, parse before = .ok template)
      (name : Entry)
      (code : TypeCode)
      {digits : List Char}
      (hDigits : ∀ c ∈ digits, c.isDigit = true)
      (hLong : 4300 < digits.length)
      (after : String) :
      Overlong (before ++
        String.ofList
          (Placeholder.enclose
            (sizedInside name code digits)) ++ after)

/- The text is cut at its colons. -/
theorem parts_sizedInside
    (name : Entry)
    (code : TypeCode)
    {digits : List Char}
    (hDigits : ∀ c ∈ digits, c.isDigit = true) :
    Split.parts ':' (sizedInside name code digits) =
      [name.chars, code.chars, digits] := by
  have hColon : ':' ∉ digits := fun hColon =>
    absurd (hDigits ':' hColon) (by decide)
  rw [sizedInside, Split.parts_append name.noColon,
    Split.parts_append code.noColon,
    Split.parts_of_not_mem hColon]

/- The text has no closing brace. -/
theorem closeMark_not_mem_sizedInside
    (name : Entry)
    (code : TypeCode)
    {digits : List Char}
    (hDigits : ∀ c ∈ digits, c.isDigit = true) :
    Segment.closeMark ∉ sizedInside name code digits := by
  have hClose : Segment.closeMark ∉ digits := fun hClose =>
    absurd (hDigits _ hClose) (by decide)
  have hColon : Segment.closeMark ≠ ':' := by decide
  simp [sizedInside, hColon, name.noClose, code.noClose,
    hClose]

/- An overlong template is not read, and not as malformed. -/
theorem overlong_iff_parse
    {source : String} :
    Overlong source ↔
      ∃ digits,
        parse source = .error (.lengthTooLong digits) := by
  constructor
  · rintro @⟨before, hBefore, name, code, digits, hDigits,
      hLong, after⟩
    have hFaulty : Faulty
        (Placeholder.enclose (sizedInside name code digits) ++
          after.toList)
        (.lengthTooLong digits.length) :=
      .token
        (closeMark_not_mem_sizedInside name code hDigits)
        (.lengthTooLong
          (parts_sizedInside name code hDigits) hDigits
          hLong)
        after.toList
    refine ⟨digits.length, FirstFault.parse_eq
      ⟨(String.append_assoc ..).symm, hBefore, ?_⟩⟩
    rw [String.toList_append, String.toList_ofList]
    exact hFaulty
  · rintro ⟨digits, hParse⟩
    rcases exists_firstFault hParse with
      ⟨before, rest, hAppend, hReadable, hFaulty⟩
    generalize hRest : rest.toList = text at hFaulty
    cases hFaulty with
    | @token inside _ hInside hFault after =>
        cases hFault with
        | @lengthTooLong name length code hParts hDigits
            hLong =>
            have hName :
                name ∈ Split.parts ':' inside := by
              simp [hParts]
            have hJoin := Split.join_parts ':' inside
            rw [hParts] at hJoin
            have hSource : source =
                before ++
                  String.ofList
                    (Placeholder.enclose inside) ++
                  String.ofList after := by
              rw [← hAppend, String.append_assoc,
                ← String.ofList_append, ← hRest,
                String.ofList_toList]
            rw [hSource, ← hJoin]
            exact .intro hReadable
              (Placeholder.entryOfPart hInside hName) code
              hDigits hLong (String.ofList after)

theorem not_overlong_of_read
    {source : String}
    {template : Template}
    (hParse : parse source = .ok template) :
    ¬ Overlong source := by
  rw [overlong_iff_parse, hParse]
  rintro ⟨digits, hDigits⟩
  exact nomatch hDigits

theorem not_overlong_of_malformed
    {source : String}
    {error : TemplateError}
    (hParse : parse source = .error (.malformed error)) :
    ¬ Overlong source := by
  rw [overlong_iff_parse, hParse]
  rintro ⟨digits, hDigits⟩
  exact nomatch hDigits

end Template

end TextTemplate

------------------------------------------------------------
-- Inputs of Any Code Points
------------------------------------------------------------

namespace TextTemplate

namespace LooseText

/- A text that has an encoding is made of characters. -/
theorem exists_of_encode?
    {text : LooseText}
    {data : ByteArray}
    (hData : text.encode? = some data) :
    ∃ content : String,
      text = content ∧ data = Utf8.encode content := by
  obtain ⟨content, hContent, rfl⟩ :=
    Option.map_eq_some_iff.mp hData
  exact ⟨content, eq_of_toString? hContent, rfl⟩

/- A text of characters has an encoding. -/
theorem encode?_ofString
    (text : String) :
    (ofString text).encode? = some (Utf8.encode text) := by
  rw [encode?, toString?_ofString, Option.map_some]

end LooseText

namespace Match

/- A text of characters is matched as it is. -/
theorem any_ofString
    (source input : String)
    (budget : Option Int) :
    any source input budget = all source input budget := by
  unfold any all
  simp only [LooseText.encode?_ofString]
  cases (Template.parseTraced source).result <;> rfl

/- A template that cannot be read gives its own error. -/
theorem any_of_unread
    {source : String}
    {error : ParseError}
    (hParse : Template.parse source = .error error)
    (input : LooseText)
    (budget : Option Int) :
    any source input budget =
      ⟨(Parsing.ofText source).notices source,
        .error (.unread error)⟩ := by
  unfold Template.parse at hParse
  unfold any Template.parseTraced
  simp only [hParse]

/- An input without an encoding is not matched. -/
theorem any_of_unencodable
    {source : String}
    {template : Template}
    (hParse : Template.parse source = .ok template)
    {input : LooseText}
    (hInput : input.encode? = none)
    (budget : Option Int) :
    any source input budget =
      ⟨(Parsing.ofText source).notices source,
        .error (.unencodable input)⟩ := by
  unfold Template.parse at hParse
  unfold any Template.parseTraced
  simp only [hParse, hInput]

/- A match of characters tells a long budget if it has one. -/
theorem any_isLong_all
    {source : String}
    {template : Template}
    (hParse : Template.parse source = .ok template)
    (input : String)
    (budget : Option Int) :
    (all source input budget).notices.any Notice.isLong =
      budget.any Numeral.isLong := by
  have hNotices :
      (all source input budget).notices =
        (Parsing.ofText source).notices source ++
          (template.matchAll input budget).notices := by
    unfold Template.parse at hParse
    unfold all Template.parseTraced
    simp only [hParse]
  rw [hNotices, List.any_append, Parsing.any_isLong_notices,
    Bool.false_or, Template.matchAll, any_isLong_pieces]

end Match

end TextTemplate

------------------------------------------------------------
-- Endings of Matches
------------------------------------------------------------

namespace TextTemplate

open Template (Overlong)

/- A budget can be written if it is not too long. -/
theorem shortBudget_iff_any
    {budget : Option Int} :
    ShortBudget budget ↔
      budget.any Numeral.isLong = false := by
  cases budget with
  | none => exact iff_of_true shortBudget_none rfl
  | some limit =>
      exact ⟨fun hBudget => hBudget limit rfl,
        shortBudget_some⟩

/- A match of characters does as is documented or is not read. -/
theorem Match.documented_all
    {source : String}
    {template : Template}
    (hParse : Template.parse source = .ok template)
    (input : String)
    (budget : Option Int) :
    Documented (all source input budget).result := by
  rcases all_cases hParse input budget with
    hFields | hMismatch | ⟨steps, hExhausted⟩
  · exact .inl hFields
  · exact .inr ⟨_, hMismatch,
      Failure.isDocumented_doesNotMatch _⟩
  · exact .inr ⟨_, hExhausted,
      Failure.isDocumented_exhausted steps⟩

namespace Session

/- Notices that are too long are details. -/
theorem any_isUnshown_notices
    (threshold : Int)
    (notices : List Notice) :
    (notices.map Effect.notice).any
        (Effect.isUnshown threshold) =
      (decide (threshold ≤ Level.debugRank) &&
        notices.any Notice.isLong) := by
  have hNotice : ∀ reported : Notice,
      (Effect.notice reported).isUnshown threshold =
        (decide (threshold ≤ Level.debugRank) &&
          reported.isLong) := by
    intro reported
    rw [Effect.isUnshown]
    cases reported with
    | matchBegun extent budget => rfl
    | _ => simp [Notice.isLong]
  induction notices with
  | nil => simp
  | cons reported later ih =>
      rw [List.map_cons, List.any_cons, List.any_cons,
        hNotice, ih, Bool.and_or_distrib_left]

/-
  A match ends with its result, unless an event is too long
  for a session that shows details.
-/
theorem matchAny_result
    (session : Session)
    (source : String)
    (input : LooseText)
    (budget : Option Int) :
    (session.matchAny source input budget).1 =
      if decide (session.threshold ≤ Level.debugRank) &&
          (Match.any source input budget).notices.any
            Notice.isLong then
        .error (.unshown .longNumber)
      else
        (Match.any source input budget).result := by
  unfold matchAny
  rw [← any_isUnshown_notices]
  cases hShown :
      ((Match.any source input budget).notices.map
        Effect.notice).any
          (Effect.isUnshown session.threshold) with
  | true =>
      simp only [play_of_unshown hShown]
      rfl
  | false =>
      simp only [play_of_shown hShown]
      rfl

/- A template that cannot be read gives its own error. -/
theorem matchAny_of_unread
    {source : String}
    {error : ParseError}
    (hParse : Template.parse source = .error error)
    (session : Session)
    (input : LooseText)
    (budget : Option Int) :
    (session.matchAny source input budget).1 =
      .error (.unread error) := by
  rw [matchAny_result, Match.any_of_unread hParse,
    Parsing.any_isLong_notices, Bool.and_false]
  exact if_neg Bool.false_ne_true

variable {source : String}
variable {template : Template}

/- An input without an encoding is not matched. -/
theorem matchAny_of_unencodable
    (hParse : Template.parse source = .ok template)
    {input : LooseText}
    (hInput : input.encode? = none)
    (session : Session)
    (budget : Option Int) :
    (session.matchAny source input budget).1 =
      .error (.unencodable input) := by
  rw [matchAny_result,
    Match.any_of_unencodable hParse hInput,
    Parsing.any_isLong_notices, Bool.and_false]
  exact if_neg Bool.false_ne_true

/- An input of characters is matched with a short budget. -/
theorem matchAny_ofString
    (hParse : Template.parse source = .ok template)
    (session : Session)
    (input : String)
    (budget : Option Int) :
    (session.matchAny source input budget).1 =
      if decide (session.threshold ≤ Level.debugRank) &&
          budget.any Numeral.isLong then
        .error (.unshown .longNumber)
      else
        (Match.all source input budget).result := by
  rw [matchAny_result, Match.any_ofString,
    Match.any_isLong_all hParse]

/-
  A match of characters ends as documented unless its budget
  is too long to be shown.
-/
theorem documented_ofString_iff
    (hParse : Template.parse source = .ok template)
    (session : Session)
    (input : String)
    (budget : Option Int) :
    Match.Documented
        (session.matchAny source input budget).1 ↔
      (session.threshold ≤ Level.debugRank →
        ShortBudget budget) := by
  have hAll := Match.documented_all hParse input budget
  rw [matchAny_ofString hParse]
  by_cases hDetails : session.threshold ≤ Level.debugRank
  · rw [decide_eq_true hDetails, Bool.true_and,
      imp_iff_right hDetails, shortBudget_iff_any]
    cases budget.any Numeral.isLong with
    | true =>
        refine iff_of_false ?_ Bool.noConfusion
        exact Match.documented_error_iff.not.mpr
          (Failure.not_isDocumented_of_kind? rfl)
    | false => exact iff_of_true hAll rfl
  · rw [decide_eq_false hDetails, Bool.false_and]
    exact iff_of_true hAll fun hShown =>
      absurd hShown hDetails

/-
  A match ends as documented just when its template is not
  overlong and, if the template can be read, the input has an
  encoding and the budget can be shown if it has to be.
-/
theorem matchAny_documented_iff
    (session : Session)
    (source : String)
    (input : LooseText)
    (budget : Option Int) :
    Match.Documented
        (session.matchAny source input budget).1 ↔
      ¬ Overlong source ∧
        ((∃ error,
            Template.parse source =
              .error (.malformed error)) ∨
          (∃ data, input.encode? = some data) ∧
            (session.threshold ≤ Level.debugRank →
              ShortBudget budget)) := by
  cases hParse : Template.parse source with
  | error error =>
      rw [matchAny_of_unread hParse,
        Match.documented_error_iff]
      cases error with
      | malformed error =>
          exact iff_of_true
            (Failure.isDocumented_malformed error)
            ⟨Template.not_overlong_of_malformed hParse,
              .inl ⟨error, rfl⟩⟩
      | lengthTooLong digits =>
          exact iff_of_false
            (Failure.not_isDocumented_lengthTooLong digits)
            fun hEnds => hEnds.1
              (Template.overlong_iff_parse.mpr
                ⟨digits, hParse⟩)
  | ok template =>
      have hRead : ¬ ∃ error : TemplateError,
          Except.ok template =
            Except.error (ParseError.malformed error) := by
        rintro ⟨error, hError⟩
        exact nomatch hError
      rw [and_iff_right
          (Template.not_overlong_of_read hParse),
        or_iff_right hRead]
      cases hInput : input.encode? with
      | none =>
          rw [matchAny_of_unencodable hParse hInput,
            Match.documented_error_iff]
          refine iff_of_false
            (Failure.not_isDocumented_of_kind? rfl) ?_
          rintro ⟨⟨data, hData⟩, _⟩
          exact nomatch hData
      | some data =>
          rcases LooseText.exists_of_encode? hInput with
            ⟨content, rfl, _⟩
          rw [and_iff_right ⟨data, rfl⟩]
          exact documented_ofString_iff hParse session
            content budget

end Session

end TextTemplate

------------------------------------------------------------
-- Endings of Runs
------------------------------------------------------------

namespace TextTemplate

open Template (Overlong)

namespace Match

/-
  Whether each input that a run comes to has an encoding.  A
  run comes to an input unless one before it exhausts the
  budget.
-/
def Encodable
    (source : String)
    (budget : Option Int)
    (inputs : List LooseText) : Prop :=
  ∀ before input after,
    inputs = before ++ input :: after →
      (∃ earlier ∈ before,
        isExhausted (any source earlier budget).result =
          true) ∨
        ∃ data, input.encode? = some data

variable {source : String}
variable {budget : Option Int}

/- Texts of characters have encodings. -/
theorem encodable_ofString
    (inputs : List String) :
    Encodable source budget (inputs.map .ofString) := by
  intro before input after hInputs
  have hMem : input ∈ inputs.map LooseText.ofString := by
    rw [hInputs]
    exact List.mem_append_right _ List.mem_cons_self
  rcases List.mem_map.mp hMem with ⟨text, _, rfl⟩
  exact .inr ⟨_, LooseText.encode?_ofString text⟩

/- The first input is come to, and the next ones may be. -/
theorem encodable_cons_iff
    {input : LooseText}
    {later : List LooseText} :
    Encodable source budget (input :: later) ↔
      (∃ data, input.encode? = some data) ∧
        (isExhausted (any source input budget).result =
            true ∨
          Encodable source budget later) := by
  constructor
  · intro hInputs
    have hFirst := hInputs [] input later rfl
    refine ⟨hFirst.resolve_left ?_, ?_⟩
    · rintro ⟨earlier, hEarlier, _⟩
      exact absurd hEarlier List.not_mem_nil
    · refine or_iff_not_imp_left.mpr fun hDecided => ?_
      rintro before other after rfl
      rcases hInputs (input :: before) other after rfl with
        ⟨earlier, hEarlier, hExhausted⟩ | hData
      · rcases List.mem_cons.mp hEarlier with rfl | hMem
        · exact absurd hExhausted hDecided
        · exact .inl ⟨earlier, hMem, hExhausted⟩
      · exact .inr hData
  · rintro ⟨hData, hLater⟩ before other after hInputs
    cases before with
    | nil =>
        rw [List.nil_append] at hInputs
        rw [← (List.cons.inj hInputs).1]
        exact .inr hData
    | cons first before =>
        rcases List.cons.inj hInputs with ⟨rfl, hRest⟩
        rcases hLater with hExhausted | hLater
        · exact .inl
            ⟨input, List.mem_cons_self, hExhausted⟩
        · rcases hLater before other after hRest with
            ⟨earlier, hMem, hExhausted⟩ | hOther
          · exact .inl
              ⟨earlier, List.mem_cons_of_mem _ hMem,
                hExhausted⟩
          · exact .inr hOther

end Match

namespace Transcript

/- Whether a transcript ends with one of the three statuses. -/
def EndsWithStatus
    (transcript : Transcript) : Prop :=
  ∃ code ≤ errorStatus, transcript.ending = .status code

/-
  Inputs are answered up to a status just when each that is
  come to has an encoding.
-/
theorem ofInputs_ending_iff
    {source : String}
    {template : Template}
    (hParse : Template.parse source = .ok template)
    {budget : Option Int}
    {status : Nat}
    (hStatus : status ≤ errorStatus)
    (inputs : List LooseText) :
    (ofInputs template budget status
        inputs).EndsWithStatus ↔
      Match.Encodable source budget inputs := by
  induction inputs generalizing status with
  | nil =>
      exact iff_of_true ⟨status, hStatus, rfl⟩
        (Match.encodable_ofString [])
  | cons input later ih =>
      rw [Match.encodable_cons_iff]
      cases hInput : input.toString? with
      | none =>
          rw [ofInputs_cons_of_unencodable hInput]
          refine iff_of_false ?_ ?_
          · rintro ⟨code, _, hCode⟩
            exact nomatch hCode
          · rintro ⟨⟨data, hData⟩, _⟩
            rw [LooseText.encode?, hInput] at hData
            exact nomatch hData
      | some text =>
          rw [LooseText.eq_of_toString? hInput]
          have hData :
              ∃ data,
                (LooseText.ofString text).encode? =
                  some data :=
            ⟨_, LooseText.encode?_ofString text⟩
          have hAny :
              (Match.any source text budget).result =
                (template.matchAll text
                  budget).result.mapError .unmatched := by
            rw [Match.any_ofString]
            exact Match.all_of_read hParse text budget
          rw [and_iff_right hData, hAny]
          rcases ofInputs_cons_cases template budget status
              text later with
            ⟨fields, hResult, hCons⟩ | ⟨hResult, hCons⟩ |
            ⟨steps, hResult, hCons⟩
          all_goals rw [hCons, hResult]
          · exact (ih hStatus).trans
              (or_iff_right Bool.false_ne_true).symm
          · exact (ih (by decide)).trans
              (or_iff_right Bool.false_ne_true).symm
          · exact iff_of_true ⟨errorStatus, le_rfl, rfl⟩
              (.inl rfl)

/-
  A run ends with a status just when its template is not
  overlong and, if the template can be read, each input that
  is come to has an encoding.
-/
theorem ofAny_ending_iff
    (source : String)
    (inputs : List LooseText)
    (budget : Option Int) :
    (ofAny source inputs budget).EndsWithStatus ↔
      ¬ Overlong source ∧
        ((∃ error,
            Template.parse source =
              .error (.malformed error)) ∨
          Match.Encodable source budget inputs) := by
  cases hParse : Template.parse source with
  | ok template =>
      have hRead := Template.not_overlong_of_read hParse
      have hInputs :
          (ofInputs template budget okStatus
              inputs).EndsWithStatus ↔
            Match.Encodable source budget inputs :=
        ofInputs_ending_iff hParse (Nat.zero_le _) inputs
      rw [ofAny_of_read hParse]
      refine hInputs.trans ⟨fun hEnds => ⟨hRead, .inr hEnds⟩,
        ?_⟩
      rintro ⟨_, ⟨_, hError⟩ | hEnds⟩
      · exact nomatch hError
      · exact hEnds
  | error error =>
      cases error with
      | malformed error =>
          rw [ofAny_of_malformed hParse]
          exact iff_of_true ⟨errorStatus, le_rfl, rfl⟩
            ⟨Template.not_overlong_of_malformed hParse,
              .inl ⟨error, rfl⟩⟩
      | lengthTooLong digits =>
          have hLong := Template.overlong_iff_parse.mpr
            ⟨digits, hParse⟩
          refine iff_of_false ?_ fun hEnds => hEnds.1 hLong
          rintro ⟨code, _, hCode⟩
          rw [ofAny_of_lengthTooLong hParse] at hCode
          exact nomatch hCode

end Transcript

/-
  A match gives fields or fails in a documented way, unless
  its template is overlong, its input has no encoding, or its
  budget is too long for a session that shows details.  A run
  ends with one of three statuses, unless its template is
  overlong or it comes to an input without an encoding.
-/
theorem failures_documented_iff
    (source : String)
    (input : LooseText)
    (budget : Option Int)
    {environment : Environment}
    {settings : Settings}
    (hSettings : Settings.read environment = .ok settings)
    {arguments : List String}
    {options : Options}
    (hOptions :
      Options.read settings arguments = .ok options)
    (inputs : List LooseText)
    (session : Session) :
    let result := (session.matchAny source input budget).1
    let ending :=
      (session.run environment arguments).1.ending
    let endingAny :=
      (session.performAny options inputs).1.ending
    (Match.Documented result ↔
      ¬ Overlong source ∧
        ((∃ error,
            Template.parse source =
              .error (.malformed error)) ∨
          (∃ data, input.encode? = some data) ∧
            (session.threshold ≤ Level.debugRank →
              ShortBudget budget))) ∧
    ((∃ code ≤ 2, ending = .status code) ↔
      ¬ Overlong options.template) ∧
    ((∃ code ≤ 2, endingAny = .status code) ↔
      ¬ Overlong options.template ∧
        ((∃ error,
            Template.parse options.template =
              .error (.malformed error)) ∨
          Match.Encodable options.template options.maxSteps
            inputs)) ∧
    ShortBudget options.maxSteps := by
  intro result ending endingAny
  have hShort :=
    Options.shortBudget_of_read hSettings hOptions
  have hEnding :
      ending =
        (Transcript.ofAny options.template
          (options.inputs.map .ofString)
          options.maxSteps).ending := by
    unfold ending
    rw [session.run_of_options hSettings hOptions,
      Session.perform_ending hShort]
    rfl
  have hEndingAny :
      endingAny =
        (Transcript.ofAny options.template inputs
          options.maxSteps).ending :=
    Session.performAny_ending hShort session inputs
  refine ⟨session.matchAny_documented_iff source input budget,
    ?_, ?_, hShort⟩
  · have hEncodable :
        Match.Encodable options.template options.maxSteps
          (options.inputs.map .ofString) :=
      Match.encodable_ofString options.inputs
    rw [hEnding]
    refine (Transcript.ofAny_ending_iff _ _ _).trans ?_
    exact and_iff_left (.inr hEncodable)
  · rw [hEndingAny]
    exact Transcript.ofAny_ending_iff _ _ _

/-
  A template with a short length is not overlong, and half a
  pair is an input without an encoding.
-/
theorem failures_documented_iff_short :
    let options : Options :=
      ⟨0, none, none, "{a:u:1}", ["x"]⟩
    let inputs : List LooseText := ["x", ⟨[.half 0x4FF]⟩]
    let endingAny :=
      (Session.start.performAny options inputs).1.ending
    Match.Documented
        (Session.start.matchAny "{a:u:1}" "x" none).1 ∧
      (∃ code ≤ 2,
        (Session.start.run [] ["{a:u:1}", "x"]).1.ending =
          .status code) ∧
      ¬ ∃ code ≤ 2, endingAny = .status code := by
  intro options inputs endingAny
  have hSettings : Settings.read [] = .ok .initial := rfl
  have hOptions :
      Options.read .initial ["{a:u:1}", "x"] =
        .ok options := by
    decide +kernel
  have hParse :
      Template.parse "{a:u:1}" =
        .ok
          ⟨"{a:u:1}",
            (Parsing.ofText "{a:u:1}").parts.map
              Part.piece⟩ :=
    Template.parse_eq_ok_iff.mpr ⟨by decide +kernel, rfl⟩
  have hShort := Template.not_overlong_of_read hParse
  have hEnds := failures_documented_iff "{a:u:1}" "x" none
    hSettings hOptions inputs Session.start
  have hBroken :
      ¬ Match.Encodable "{a:u:1}" none inputs := by
    intro hInputs
    rcases hInputs ["x"] _ [] rfl with
      ⟨earlier, hEarlier, hExhausted⟩ | ⟨data, hData⟩
    · obtain rfl := List.mem_singleton.mp hEarlier
      exact absurd hExhausted (by decide +kernel)
    · exact nomatch hData
  refine
    ⟨hEnds.1.mpr
        ⟨hShort, .inr ⟨⟨_, rfl⟩, fun _ => shortBudget_none⟩⟩,
      hEnds.2.1.mpr hShort, hEnds.2.2.1.not.mpr ?_⟩
  rintro ⟨_, ⟨error, hError⟩ | hInputs⟩
  · rw [hParse] at hError
    exact nomatch hError
  · exact hBroken hInputs

/- A template whose only length has 4301 digits. -/
def longLength : String :=
  String.ofList
    (Placeholder.enclose
      ('a' :: ':' :: ':' :: List.replicate 4301 '1'))

theorem parse_longLength :
    Template.parse longLength =
      .error (.lengthTooLong 4301) := by
  have hDigits : ∀ c ∈ List.replicate 4301 '1',
      c.isDigit = true := by
    intro c hc
    rw [List.eq_of_mem_replicate hc]
    decide
  have hFaulty : Faulty longLength.toList
      (.lengthTooLong (List.replicate 4301 '1').length) := by
    rw [longLength, String.toList_ofList,
      ← List.append_nil (Placeholder.enclose _)]
    exact .token
      (Template.closeMark_not_mem_sizedInside
        ⟨['a'], by decide, by decide⟩ .omitted hDigits)
      (.lengthTooLong
        (Template.parts_sizedInside
          ⟨['a'], by decide, by decide⟩ .omitted hDigits)
        hDigits (by rw [List.length_replicate]; decide))
      []
  have hFault : FirstFault longLength "" longLength _ :=
    ⟨String.empty_append, ⟨⟨"", []⟩, by decide +kernel⟩,
      hFaulty⟩
  rw [hFault.parse_eq, List.length_replicate]

/- The failure of this template is not documented. -/
theorem failures_undocumented_long_length :
    (Match.all longLength "x" none).result =
        .error (.unread (.lengthTooLong 4301)) ∧
      ¬ (Failure.unread
        (.lengthTooLong 4301)).IsDocumented ∧
      (Session.start.run [] [longLength, "x"]).1.ending =
        .unhandled (.unread (.lengthTooLong 4301)) := by
  have hSource : Unhyphenated longLength := by
    rw [Unhyphenated, longLength, String.toList_ofList,
      Placeholder.enclose, List.head?_cons]
    decide
  have hOptions := Options.read_of_preamble
    (.done (Draft.start .initial))
    (List.cons_ne_nil "x" []) hSource (by decide)
  refine ⟨Match.all_of_unread parse_longLength "x" none,
    Failure.not_isDocumented_lengthTooLong 4301, ?_⟩
  rw [← List.nil_append [longLength, "x"],
    Session.start.run_of_options rfl hOptions,
    Session.perform_ending shortBudget_none]
  exact Transcript.ofAny_of_lengthTooLong parse_longLength
    ["x"] none

end TextTemplate
