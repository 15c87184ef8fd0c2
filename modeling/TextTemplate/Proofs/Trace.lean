import TextTemplate.Proofs.Assembly
import TextTemplate.Proofs.Template.Fault

/-
  What the events of a match tell of it.

  There is one event for each part that is read.  Then, if
  the template is read to its end, the events tell the number
  of parts, the size of the input and how the search ended;
  if not, there are no more.  Each event is given here by its
  name, its level and all its values.

  Main declarations:
    * `Fields.CutFrom`
    * `Event.report`
    * `Match.Concluded`
    * `Match.concluded`
    * `Match.trace_tells_outcome`
-/

------------------------------------------------------------
-- Fields Cut from an Input
------------------------------------------------------------

namespace TextTemplate

namespace Fields

/-
  Whether lengths, one for each piece, cut an input into
  segments, of which fields hold the last of each name.
-/
structure CutFrom
    (data : ByteArray)
    (pieces : List Piece)
    (lengths : List Nat)
    (fields : Fields) : Prop where
  length_eq : lengths.length = pieces.length
  sum_eq : lengths.sum = data.size
  get?_iff :
    ∀ name text, fields.get? name = some text ↔
      IsLast data (pieces.zip lengths) name text

/- The segments of a decomposition are those of its fields. -/
theorem cutFrom_of_decomposes
    {data : ByteArray}
    {pieces : List Piece}
    {lengths : List Nat}
    {fields : Fields}
    (hDecomposes : Decomposes data pieces 0 lengths)
    (hFields : assemble pieces data lengths = some fields) :
    fields.CutFrom data pieces lengths := by
  have hSum := hDecomposes.sum_eq
  rw [Nat.zero_add] at hSum
  exact ⟨hDecomposes.length_eq, hSum,
    get?_assemble_iff hFields⟩

end Fields

end TextTemplate

------------------------------------------------------------
-- Reports
------------------------------------------------------------

namespace TextTemplate

namespace Event

/- The event of a certain name and level with some values. -/
def report
    (name level : String)
    (values : List (Key × Value)) : Event :=
  ⟨values ++
    [entry "event" (.text name),
      entry "level" (.text level)]⟩

/- The event that tells of a part. -/
def ofPart
    (part : Part) : Event :=
  report "parse.token" "debug"
    [entry "segment" (.text part.segment),
      entry "spec" (.text part.piece.describe)]

/- The event that tells how many parts a template has. -/
def ofTemplate
    (source : String)
    (count : Nat) : Event :=
  report "parse.done" "debug"
    [entry "template" (.text source),
      entry "count" (.count count)]

/-
  The event of some step of a match, with the number of
  pieces, the size of the input and further values.
-/
def ofMatch
    (name level : String)
    (pieces : List Piece)
    (text : String)
    (values : List (Key × Value)) : Event :=
  report name level
    ([entry "specs" (.count pieces.length),
        entry "size" (.count (Utf8.encode text).size)] ++
      values)

end Event

end TextTemplate

------------------------------------------------------------
-- Steps of a Fresh Search
------------------------------------------------------------

namespace TextTemplate

namespace Search

variable {pieces : List Piece}
variable {data : ByteArray}
variable {budget : Option Int}

/- A fresh search that ends stays within its limit. -/
theorem start_steps_within
    (hEnds : (start pieces data budget).run.1 ≠ .exhausted) :
    ∀ limit ∈ budget,
      ((start pieces data budget).run.2.steps : Int) ≤
        max limit 0 := by
  rintro limit rfl
  have hRun := (start pieces data none).run_of_limit limit
  rw [withBudget_start, withBudget_start,
    steps_start] at hRun
  split at hRun
  · rw [hRun.2]
    omega
  · exact absurd hRun.1 hEnds

/-
  A fresh search that does not end stops with the first step
  beyond its limit.
-/
theorem start_steps_beyond
    (hOutcome :
      (start pieces data budget).run.1 = .exhausted) :
    ∃ limit, budget = some limit ∧
      ((start pieces data budget).run.2.steps : Int) =
        max limit 0 + 1 := by
  have hEnds := explore_none_ne_exhausted data
    (Slot.ofPieces pieces) ⟨0, 0⟩ .start
  cases budget with
  | none => exact absurd hOutcome hEnds
  | some limit =>
      have hRun :=
        (start pieces data none).run_of_limit limit
      rw [withBudget_start, withBudget_start,
        steps_start] at hRun
      split at hRun
      · rw [hRun.1] at hOutcome
        exact absurd hOutcome hEnds
      · exact ⟨limit, rfl, hRun.2⟩

end Search

end TextTemplate

------------------------------------------------------------
-- Conclusions
------------------------------------------------------------

namespace TextTemplate

namespace Match

/-
  How a match of pieces in a text ends: the last event, and
  the result that agrees with it.
-/
inductive Concluded
    (pieces : List Piece)
    (text : String)
    (budget : Option Int) :
    Event → Except MatchFailure Fields → Prop where
  | found
      {steps : Nat}
      {lengths : List Nat}
      {fields : Fields}
      (hCut :
        fields.CutFrom (Utf8.encode text) pieces lengths)
      (hSteps :
        ∀ limit ∈ budget, (steps : Int) ≤ max limit 0) :
      Concluded pieces text budget
        (.ofMatch "match.success" "debug" pieces text
          [Event.entry "steps" (.count steps),
            Event.entry "lengths"
              (.list (lengths.map Value.count))])
        (.ok fields)
  | failed
      {steps : Nat}
      (hSteps :
        ∀ limit ∈ budget, (steps : Int) ≤ max limit 0) :
      Concluded pieces text budget
        (.ofMatch "match.fail" "debug" pieces text
          [Event.entry "steps" (.count steps)])
        (.error (.doesNotMatch (Utf8.encode text)))
  | exhausted
      {steps : Nat}
      {limit : Int}
      (hLimit : budget = some limit)
      (hSteps : (steps : Int) = max limit 0 + 1) :
      Concluded pieces text budget
        (.ofMatch "match.exhausted" "warning" pieces text
          [Event.entry "steps" (.count steps)])
        (.error (.exhausted steps))

/- The event of a match that begins. -/
def beginning
    (pieces : List Piece)
    (text : String)
    (budget : Option Int) : Event :=
  .ofMatch "match.begin" "debug" pieces text
    [Event.entry "max_steps" (.ofOption budget)]

/- A match in a text has a conclusion. -/
theorem concluded
    (pieces : List Piece)
    (text : String)
    (budget : Option Int) :
    let matched :=
      Match.pieces pieces (Utf8.encode text) budget
    ∃ last,
      matched.notices.map Notice.event =
          [beginning pieces text budget, last] ∧
        Concluded pieces text budget last matched.result := by
  intro matched
  refine ⟨_, rfl, ?_⟩
  have hSteps := @Search.start_steps_within pieces
    (Utf8.encode text) budget
  unfold matched Match.pieces conclude
  cases hOutcome :
      (Search.start pieces (Utf8.encode text)
        budget).run.1 with
  | found lengths =>
      rcases exists_fields_of_found hOutcome with
        ⟨fields, hFields, _⟩
      simp only [hOutcome, hFields]
      exact .found
        (Fields.cutFrom_of_decomposes
          (Search.decomposes_of_found hOutcome) hFields)
        (hSteps (by simp [hOutcome]))
  | stuck =>
      simp only [hOutcome]
      exact .failed (hSteps (by simp [hOutcome]))
  | exhausted =>
      rcases Search.start_steps_beyond hOutcome with
        ⟨limit, hLimit, hBeyond⟩
      simp only [hOutcome]
      exact .exhausted hLimit hBeyond

/- The events of the parts that are read. -/
theorem map_event_partRead
    (parts : List Part) :
    (parts.map Notice.partRead).map Notice.event =
      parts.map Event.ofPart := by
  rw [List.map_map]
  rfl

/- What is reported for a template that is read. -/
theorem notices_of_read
    {source : String}
    {template : Template}
    (hParse : Template.parse source = .ok template)
    (input : String)
    (budget : Option Int) :
    let parts := (Parsing.ofText source).parts
    (all source input budget).notices =
      parts.map .partRead ++
        .templateRead source parts.length ::
          (template.matchAll input budget).notices := by
  have hRead := (Template.parse_eq_ok_iff.mp hParse).1
  unfold Template.parse at hParse
  unfold all Template.parseTraced
  simp only [hParse, Parsing.notices, hRead,
    List.append_assoc, List.singleton_append]

/-
  The events of a match tell its outcome.  They begin with
  one event for each part that is read.  If there is a faulty
  part, these parts make up what is before it and there are
  no more events.  Otherwise the parts make up the template;
  the number of parts and the size of the input follow, and a
  last event agrees with the result: lengths that cut the
  fields from the input, and numbers of steps within the
  limit or one beyond it.
-/
theorem trace_tells_outcome
    (source input : String)
    (budget : Option Int) :
    let traced : Traced (Except Failure Fields) :=
      Match.all source input budget
    let events := traced.notices.map Notice.event
    (∃ parts before rest error,
      FirstFault source before rest error ∧
        Reading before parts ∧
        events = parts.map .ofPart ∧
        traced.result = .error (.unread error)) ∨
    (∃ parts last result,
      Reading source parts ∧
        events =
          parts.map .ofPart ++
            [.ofTemplate source parts.length,
              beginning (parts.map Part.piece) input budget,
              last] ∧
        traced.result = result.mapError .unmatched ∧
        Concluded (parts.map Part.piece) input budget last
          result) := by
  intro traced events
  cases hParse : Template.parse source with
  | error error =>
      rcases Template.exists_firstFault hParse with
        ⟨before, rest, hFault⟩
      refine .inl ⟨_, before, rest, error, hFault,
        hFault.reading, ?_, all_of_unread hParse _ _⟩
      rw [← map_event_partRead]
      exact congrArg _ (notices_of_unread hParse _ _)
  | ok template =>
      rcases Template.parse_eq_ok_iff.mp hParse with
        ⟨hRead, rfl⟩
      rcases concluded
          ((Parsing.ofText source).parts.map Part.piece)
          input budget with
        ⟨last, hEvents, hEnd⟩
      refine .inr ⟨_, last, _, Parsing.reading_ofText hRead,
        ?_, all_of_read hParse _ _, hEnd⟩
      have hNotices : events = _ := congrArg
        (List.map Notice.event)
        (notices_of_read hParse input budget)
      rw [hNotices, List.map_append, map_event_partRead,
        List.map_cons, Template.matchAll, hEvents]
      rfl

end Match

end TextTemplate
