import TextTemplate.Template.Segment
import TextTemplate.Template.Token

/-
  Templates and how they are read.

  A template is read from left to right.  `Parsing` keeps
  the parts that were read and, if reading stopped early,
  the reason.

  Key definitions include:
    * `Part`
    * `Parsing`
    * `Parsing.ofText`
    * `Template`
    * `Template.parse`
    * `Template.fieldNames`
-/

------------------------------------------------------------
-- Parts
------------------------------------------------------------

namespace TextTemplate

/- A segment of a template and the piece it stands for. -/
structure Part where
  segment : String
  piece : Piece
  deriving DecidableEq

namespace Part

/- Read a segment as a part. -/
def ofSegment
    (segment : List Char) : Except ParseError Part := do
  let text := String.ofList segment
  if segment.head? = some Segment.openMark then
    return ⟨text, ← Token.piece segment⟩
  else
    return ⟨text, .literal (Utf8.encode text)⟩

end Part

end TextTemplate

------------------------------------------------------------
-- Parsing
------------------------------------------------------------

namespace TextTemplate

/-
  The parts read from a text, and why reading stopped before
  the end, if it did.
-/
structure Parsing where
  parts : List Part
  error : Option ParseError
  deriving DecidableEq

namespace Parsing

/- Put a part in front of those that were read after it. -/
def prepend
    (part : Part)
    (later : Parsing) : Parsing :=
  ⟨part :: later.parts, later.error⟩

/- A reading that stopped at its start. -/
def stopped
    (error : ParseError) : Parsing :=
  ⟨[], some error⟩

/- Read the parts of a text. -/
def ofChars
    (text : List Char) : Parsing :=
  if _hText : text = [] then
    ⟨[], none⟩
  else
    match _hNext : Segment.next text with
    | .error error => stopped (.malformed error)
    | .ok (segment, rest) =>
        match Part.ofSegment segment with
        | .error error => stopped error
        | .ok part => prepend part (ofChars rest)
termination_by text.length
decreasing_by
  exact Segment.length_lt_of_next _hText _hNext

/- Read the parts of a template. -/
def ofText
    (text : String) : Parsing :=
  ofChars text.toList

/- The pieces that were read. -/
def pieces
    (parsing : Parsing) : List Piece :=
  parsing.parts.map Part.piece

end Parsing

end TextTemplate

------------------------------------------------------------
-- Templates
------------------------------------------------------------

namespace TextTemplate

/- A template that was read to its end. -/
structure Template where
  source : String
  pieces : List Piece
  deriving DecidableEq

namespace Template

/- The template of which all parts were read. -/
def ofParsing
    (source : String)
    (parsing : Parsing) : Except ParseError Template :=
  match parsing.error with
  | some error => .error error
  | none => .ok ⟨source, parsing.pieces⟩

/- Read a template. -/
def parse
    (source : String) : Except ParseError Template :=
  ofParsing source (Parsing.ofText source)

/- The field names of a list of pieces, in order. -/
def namesOf
    (pieces : List Piece) : List String :=
  pieces.filterMap fun piece => piece.name.identifier?

/- The field names, each once, in order of appearance. -/
def fieldNames
    (template : Template) : List String :=
  (namesOf template.pieces).eraseDups

/- A template as it is shown. -/
def describe
    (template : Template) : String :=
  "<Pattern " ++ template.source ++ ">"

end Template

end TextTemplate
