import TextTemplate.Fields
import TextTemplate.Log.Line
import TextTemplate.Log.Notice
import TextTemplate.Search.Basic

/-
  Matching an input against a template.

  A match gives the fields of the input, or the reason why
  there are none, together with the notices reported on the
  way.

  Key definitions include:
    * `Traced`
    * `MatchFailure`
    * `Failure`
    * `Match.pieces`
    * `Template.matchAll`
    * `Match.all`
    * `Match.any`
-/

------------------------------------------------------------
-- Failures
------------------------------------------------------------

namespace TextTemplate

/- Why pieces do not give the fields of an input. -/
inductive MatchFailure where
  | doesNotMatch (data : ByteArray)
  | exhausted (steps : Nat)
  | notText
  deriving DecidableEq

/-
  Why a template does not give the fields of an input.  An
  input without an encoding cannot be matched, and an event
  that cannot be shown breaks a match off.
-/
inductive Failure where
  | unread (error : ParseError)
  | unmatched (error : MatchFailure)
  | unencodable (input : LooseText)
  | unshown (error : Line.Failure)
  deriving DecidableEq

namespace MatchFailure

/- The kind of a failure, if it is a failure to match. -/
def kind? : MatchFailure → Option FailureKind
  | .doesNotMatch _ => some .doesNotMatch
  | .exhausted _ => some .searchExhausted
  | .notText => none

/- The wording for pieces that give no fields. -/
def message : MatchFailure → String
  | .doesNotMatch data => Quoted.bytes data
  | .exhausted steps => toString steps
  | .notText => ""

end MatchFailure

namespace ParseError

/- The kind of an error, if it is a failure to match. -/
def kind? : ParseError → Option FailureKind
  | .malformed error => some error.kind
  | .lengthTooLong _ => none

end ParseError

namespace Failure

/- The kind of a failure, if it is a failure to match. -/
def kind? : Failure → Option FailureKind
  | .unread error => error.kind?
  | .unmatched error => error.kind?
  | .unencodable _ => none
  | .unshown _ => none

/- The wording for a template that gives no fields. -/
def message : Failure → String
  | .unread error => error.message
  | .unmatched error => error.message
  | .unencodable _ => ""
  | .unshown error => error.message

end Failure

end TextTemplate

------------------------------------------------------------
-- Matching Pieces
------------------------------------------------------------

namespace TextTemplate

/- A result together with the notices before it. -/
structure Traced (α : Type) where
  notices : List Notice
  result : α

namespace Match

/- What comes of a search that has ended. -/
def conclude
    (pieces : List Piece)
    (data : ByteArray)
    (extent : Extent)
    (ended : Outcome × Search) :
    Notice × Except MatchFailure Fields :=
  let steps := ended.2.steps
  match ended.1 with
  | .found lengths =>
      (.matchFound extent steps lengths,
        match Fields.assemble pieces data lengths with
        | some fields => .ok fields
        | none => .error .notText)
  | .stuck =>
      (.matchFailed extent steps,
        .error (.doesNotMatch data))
  | .exhausted =>
      (.matchExhausted extent steps,
        .error (.exhausted steps))

/- Match a byte string against pieces. -/
def pieces
    (pieces : List Piece)
    (data : ByteArray)
    (budget : Option Int) :
    Traced (Except MatchFailure Fields) :=
  let extent : Extent := ⟨pieces.length, data.size⟩
  let ended := (Search.start pieces data budget).run
  let conclusion := conclude pieces data extent ended
  ⟨[.matchBegun extent budget, conclusion.1],
    conclusion.2⟩

end Match

end TextTemplate

------------------------------------------------------------
-- Matching Templates
------------------------------------------------------------

namespace TextTemplate

namespace Parsing

/- The notices reported while a template is read. -/
def notices
    (source : String)
    (parsing : Parsing) : List Notice :=
  parsing.parts.map Notice.partRead ++
    match parsing.error with
    | some _ => []
    | none =>
        [.templateRead source parsing.parts.length]

end Parsing

namespace Template

/- Read a template and report what was read. -/
def parseTraced
    (source : String) :
    Traced (Except ParseError Template) :=
  let parsing := Parsing.ofText source
  ⟨parsing.notices source, ofParsing source parsing⟩

/- Match an input against a template. -/
def matchAll
    (template : Template)
    (input : String)
    (budget : Option Int) :
    Traced (Except MatchFailure Fields) :=
  Match.pieces template.pieces (Utf8.encode input) budget

/-
  The fields of an input, or none if the input does not
  match.
-/
def matchInput
    (template : Template)
    (input : String) :
    Except MatchFailure (Option Fields) :=
  match (template.matchAll input none).result with
  | .ok fields => .ok (some fields)
  | .error (.doesNotMatch _) => .ok none
  | .error failure => .error failure

end Template

namespace Match

/- Read a template and match an input against it. -/
def all
    (source input : String)
    (budget : Option Int) :
    Traced (Except Failure Fields) :=
  let parsed := Template.parseTraced source
  match parsed.result with
  | .error error =>
      ⟨parsed.notices, .error (.unread error)⟩
  | .ok template =>
      let matched := template.matchAll input budget
      ⟨parsed.notices ++ matched.notices,
        matched.result.mapError .unmatched⟩

/-
  Read a template and match any text against it, if the text
  has an encoding.
-/
def any
    (source : String)
    (input : LooseText)
    (budget : Option Int) :
    Traced (Except Failure Fields) :=
  let parsed := Template.parseTraced source
  match parsed.result, input.encode? with
  | .error error, _ =>
      ⟨parsed.notices, .error (.unread error)⟩
  | .ok _, none =>
      ⟨parsed.notices, .error (.unencodable input)⟩
  | .ok template, some data =>
      let matched := pieces template.pieces data budget
      ⟨parsed.notices ++ matched.notices,
        matched.result.mapError .unmatched⟩

end Match

end TextTemplate

------------------------------------------------------------
-- Laws
------------------------------------------------------------

namespace TextTemplate

namespace Match

/- A template that cannot be read gives its own error. -/
theorem all_of_unread
    {source : String}
    {error : ParseError}
    (hParse : Template.parse source = .error error)
    (input : String)
    (budget : Option Int) :
    (all source input budget).result =
      .error (.unread error) := by
  unfold Template.parse at hParse
  unfold all Template.parseTraced
  simp only [hParse]

/- A template that can be read gives what its pieces give. -/
theorem all_of_read
    {source : String}
    {template : Template}
    (hParse : Template.parse source = .ok template)
    (input : String)
    (budget : Option Int) :
    (all source input budget).result =
      (pieces template.pieces (Utf8.encode input)
        budget).result.mapError .unmatched := by
  unfold Template.parse at hParse
  unfold all Template.parseTraced
  simp only [hParse]
  rfl

end Match

end TextTemplate
