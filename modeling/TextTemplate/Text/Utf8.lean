/-
  Texts as byte strings in UTF-8.

  A position of a byte string is a boundary unless the byte
  that follows continues a character.

  Key definitions include:
    * `Utf8.encode`
    * `Utf8.decode`
    * `Utf8.isBoundary`
-/

------------------------------------------------------------
-- Byte Strings
------------------------------------------------------------

namespace TextTemplate

/- The same decision of equality, whatever is imported. -/
instance (priority := 2000) decidableEqBytes :
    DecidableEq ByteArray :=
  ByteArray.instDecidableEq

end TextTemplate

------------------------------------------------------------
-- Encoding
------------------------------------------------------------

namespace TextTemplate

namespace Utf8

/- The bytes of a text. -/
def encode
    (text : String) : ByteArray :=
  text.toUTF8

/- The text of a byte string that encodes one. -/
def decode
    (data : ByteArray) : Option String :=
  String.fromUTF8? data

/- Reading the bytes of a text gives the text. -/
theorem decode_encode
    (text : String) :
    decode (encode text) = some text := by
  unfold decode encode String.fromUTF8?
  rw [String.toUTF8_eq_toByteArray,
    dif_pos text.isValidUTF8]
  rfl

/- A byte string is read as the only text it encodes. -/
theorem decode_eq_some_iff
    {data : ByteArray}
    {text : String} :
    decode data = some text ↔ data = encode text := by
  constructor
  · intro h
    simp only [decode, String.fromUTF8?] at h
    split at h
    · cases h
      rfl
    · cases h
  · rintro rfl
    exact decode_encode text

end Utf8

end TextTemplate

------------------------------------------------------------
-- Boundaries
------------------------------------------------------------

namespace TextTemplate

namespace Utf8

/- Whether a byte continues a character of several bytes. -/
def isContinuation
    (byte : UInt8) : Bool :=
  byte &&& 0xC0 == 0x80

/- Whether a position lies inside no character. -/
def isBoundary
    (data : ByteArray)
    (position : Nat) : Bool :=
  match data[position]? with
  | some byte => !isContinuation byte
  | none => true

end Utf8

end TextTemplate
