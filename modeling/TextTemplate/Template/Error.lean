import TextTemplate.FailureKind

/-
  What can be wrong with a template.

  A template that breaks the grammar is malformed.  A length
  of very many digits keeps to the grammar and is refused
  all the same, since a number of that size is not read.

  Key definitions include:
    * `TemplateError`
    * `TemplateError.kind`
    * `ParseError`
-/

------------------------------------------------------------
-- Malformed Templates
------------------------------------------------------------

namespace TextTemplate

/- A breach of the grammar, with the text that breaks it. -/
inductive TemplateError where
  | unclosed (rest : String)
  | badLength (text : String)
  | unknownType (code : String)
  | tooManyParts (token : String)
  deriving DecidableEq

namespace TemplateError

/- The text that breaks the grammar. -/
def text : TemplateError → String
  | .unclosed rest => rest
  | .badLength text => text
  | .unknownType code => code
  | .tooManyParts token => token

/- The kind of failure that a breach is. -/
def kind : TemplateError → FailureKind
  | .unclosed _ => .unclosed
  | .badLength _ => .badLength
  | .unknownType _ => .unknownType
  | .tooManyParts _ => .tooManyParts

end TemplateError

end TextTemplate

------------------------------------------------------------
-- Unreadable Templates
------------------------------------------------------------

namespace TextTemplate

/- Why a template is not read. -/
inductive ParseError where
  | malformed (error : TemplateError)
  | lengthTooLong (digits : Nat)
  deriving DecidableEq

namespace ParseError

/- The wording for a length of too many digits. -/
def tooLongMessage
    (digits : Nat) : String :=
  "Exceeds the limit (4300 digits) for integer string " ++
    "conversion: value has " ++ toString digits ++
    " digits; use sys.set_int_max_str_digits() to " ++
    "increase the limit"

/- The wording for a template that is not read. -/
def message : ParseError → String
  | .malformed error => error.text
  | .lengthTooLong digits => tooLongMessage digits

end ParseError

end TextTemplate
