import TextTemplate.Content.Basic
import TextTemplate.Text.Quoted

/-
  How kinds of content are named and shown.

  Key definitions include:
    * `Content.kindName`
    * `Content.describe`
-/

------------------------------------------------------------
-- Names
------------------------------------------------------------

namespace TextTemplate

namespace Content

/- The name of a kind of content. -/
def kindName : Content → String
  | .anyByte => "AnyByte"
  | .nonBlank => "NonWhitespace"
  | .blank => "Whitespace"
  | .unsigned => "UnsignedInteger"
  | .signed => "SignedInteger"
  | .decimal => "Decimal"
  | .oneOf _ _ => "ByteSet"
  | .literal _ => "Literal"

/- The bytes of a set as a byte string. -/
def setBytes
    (set : ByteSet) : ByteArray :=
  ⟨set.toList.toArray⟩

/- A kind of content with its bytes. -/
def describe
    (content : Content) : String :=
  match content with
  | .oneOf set negated =>
      "<ByteSet " ++ (if negated then "^" else "") ++
        Quoted.bytes (setBytes set) ++ ">"
  | .literal text =>
      "<Literal " ++ Quoted.bytes text ++ ">"
  | content => "<" ++ content.kindName ++ ">"

end Content

end TextTemplate
