/-
  The kinds of failure of a match, each a case of a more
  general one up to the most general kind.

  Key definitions include:
    * `FailureKind`
    * `FailureKind.parent?`
    * `FailureKind.lineage`
    * `FailureKind.name`
-/

------------------------------------------------------------
-- Kinds
------------------------------------------------------------

namespace TextTemplate

/- A kind of failure. -/
inductive FailureKind where
  | anyFailure
  | doesNotMatch
  | searchExhausted
  | malformedTemplate
  | unclosed
  | badLength
  | unknownType
  | tooManyParts
  deriving DecidableEq

namespace FailureKind

/- The next more general kind. -/
def parent? : FailureKind → Option FailureKind
  | .anyFailure => none
  | .doesNotMatch => some .anyFailure
  | .searchExhausted => some .anyFailure
  | .malformedTemplate => some .anyFailure
  | .unclosed => some .malformedTemplate
  | .badLength => some .malformedTemplate
  | .unknownType => some .malformedTemplate
  | .tooManyParts => some .malformedTemplate

/- How many more general kinds there are. -/
def depth : FailureKind → Nat
  | .anyFailure => 0
  | .doesNotMatch => 1
  | .searchExhausted => 1
  | .malformedTemplate => 1
  | .unclosed => 2
  | .badLength => 2
  | .unknownType => 2
  | .tooManyParts => 2

/- A more general kind is nearer to the most general one. -/
theorem depth_lt_of_parent
    {kind parent : FailureKind}
    (hParent : kind.parent? = some parent) :
    parent.depth < kind.depth := by
  cases kind <;> simp [parent?] at hParent <;>
    subst hParent <;> decide

/- A kind and all more general ones, the nearest first. -/
def lineage
    (kind : FailureKind) : List FailureKind :=
  match _hParent : kind.parent? with
  | none => [kind]
  | some parent => kind :: parent.lineage
termination_by kind.depth
decreasing_by exact depth_lt_of_parent _hParent

/- All kinds. -/
def all : List FailureKind :=
  [.anyFailure, .doesNotMatch, .searchExhausted,
    .malformedTemplate, .unclosed, .badLength,
    .unknownType, .tooManyParts]

/- The name of a kind. -/
def name : FailureKind → String
  | .anyFailure => "MatchError"
  | .doesNotMatch => "DoesNotMatch"
  | .searchExhausted => "SearchExhausted"
  | .malformedTemplate => "TemplateError"
  | .unclosed => "MissingClosingBracket"
  | .badLength => "InvalidTokenLength"
  | .unknownType => "InvalidTokenType"
  | .tooManyParts => "TooManyTokenParts"

/- The kind of a name. -/
def ofName?
    (name : String) : Option FailureKind :=
  all.find? fun kind => kind.name = name

/- Whether a failure of a kind is about a template. -/
def isMalformedTemplate
    (kind : FailureKind) : Bool :=
  kind.lineage.contains .malformedTemplate

end FailureKind

end TextTemplate
