import TextTemplate.Piece
import TextTemplate.Template.Error
import TextTemplate.Text.Digit
import TextTemplate.Text.Numeral
import TextTemplate.Text.Split
import TextTemplate.Text.Utf8

/-
  Reading a token as a piece.

  Between its braces a token has a name, and may have a type
  code and a length, with colons between them.

  Key definitions include:
    * `Token.content`
    * `Token.length`
    * `Token.piece`
-/

------------------------------------------------------------
-- Type Codes
------------------------------------------------------------

namespace TextTemplate

namespace Token

/- The set meant by the characters between brackets. -/
def byteSet : List Char → Content
  | '^' :: chars => .oneOf (set chars) true
  | chars => .oneOf (set chars) false
where
  /- The bytes of the characters. -/
  set
      (chars : List Char) : ByteSet :=
    .ofList (Utf8.encode (String.ofList chars)).toList

/- The kind of content that a type code stands for. -/
def content
    (code : List Char) : Except ParseError Content :=
  match code with
  | [] | ['*'] | ['s'] => .ok .anyByte
  | ['w'] => .ok .nonBlank
  | ['W'] => .ok .blank
  | ['i'] => .ok .signed
  | ['u'] => .ok .unsigned
  | ['d'] => .ok .decimal
  | code =>
      if code.head? = some '[' &&
          code.tail.getLast? = some ']' then
        .ok (byteSet code.tail.dropLast)
      else
        .error (.malformed
          (.unknownType (String.ofList code)))

end Token

end TextTemplate

------------------------------------------------------------
-- Lengths
------------------------------------------------------------

namespace TextTemplate

namespace Token

/- The lengths that a length in a token stands for. -/
def length
    (text : List Char) : Except ParseError Interval :=
  if text.isEmpty || !text.all Digit.isAscii then
    .error (.malformed (.badLength (String.ofList text)))
  else if Numeral.maxDigits < text.length then
    .error (.lengthTooLong text.length)
  else
    let values := text.filterMap (Digit.valueFrom? 0x30)
    .ok (.exact (Digit.number values))

end Token

end TextTemplate

------------------------------------------------------------
-- Tokens
------------------------------------------------------------

namespace TextTemplate

namespace Token

/- A token without its first and last character. -/
def inside
    (token : List Char) : List Char :=
  token.tail.dropLast

/- The piece that a token stands for. -/
def piece
    (token : List Char) : Except ParseError Piece :=
  match Split.parts ':' (inside token) with
  | [name] =>
      .ok ⟨fieldName name, .all, .anyByte⟩
  | [name, code] => do
      let content ← content code
      return ⟨fieldName name, .all, content⟩
  | [name, code, size] => do
      let content ← content code
      let length ← length size
      return ⟨fieldName name, length, content⟩
  | _ =>
      .error (.malformed
        (.tooManyParts (String.ofList token)))
where
  /- The field name in a token. -/
  fieldName
      (name : List Char) : FieldName :=
    .ofText (String.ofList name)

end Token

end TextTemplate
