import TextTemplate.Content.Display
import TextTemplate.Interval.Display

/-
  Pieces of a template: what one segment of the input has to
  be, and the name under which it is reported.

  A piece gives a field name or none, the lengths that its
  segment may have, in bytes, and the kind of content.

  Key definitions include:
    * `FieldName`
    * `FieldName.ofText`
    * `Piece`
    * `Piece.literal`
    * `Piece.describe`
-/

------------------------------------------------------------
-- Field Names
------------------------------------------------------------

namespace TextTemplate

/- The name of a field, or none for an unreported one. -/
inductive FieldName where
  | anonymous
  | named (identifier : String)
  deriving DecidableEq

namespace FieldName

/-
  The name that a text stands for.  The empty text and the
  underscore stand for no name.
-/
def ofText
    (text : String) : FieldName :=
  if text = "" || text = "_" then
    .anonymous
  else
    .named text

/- The identifier of a name. -/
def identifier? : FieldName → Option String
  | .anonymous => none
  | .named identifier => some identifier

/- Whether a segment goes unreported. -/
def isAnonymous
    (name : FieldName) : Bool :=
  name.identifier?.isNone

/- A name, or its absence, in full. -/
def describe : FieldName → String
  | .anonymous => "ANONYMOUS"
  | .named identifier =>
      "Named(identifier=" ++ Quoted.text identifier ++ ")"

end FieldName

end TextTemplate

------------------------------------------------------------
-- Pieces
------------------------------------------------------------

namespace TextTemplate

/- A piece of a template. -/
structure Piece where
  name : FieldName
  length : Interval
  content : Content
  deriving DecidableEq

namespace Piece

/- The piece of a fixed byte string. -/
def literal
    (text : ByteArray) : Piece :=
  ⟨.anonymous, .exact text.size, .literal text⟩

/- Whether the segment of a piece goes unreported. -/
def isAnonymous
    (piece : Piece) : Bool :=
  piece.name.isAnonymous

/-
  A piece on one line: the quoted bytes of a literal, or the
  name, the kind of content and the lengths.
-/
def describe
    (piece : Piece) : String :=
  match piece.content with
  | .literal text => Quoted.bytes text
  | content =>
      "\x7b" ++ piece.name.identifier?.getD "_" ++ " " ++
        content.kindName ++ " " ++ piece.length.display ++
        "\x7d"

end Piece

end TextTemplate
