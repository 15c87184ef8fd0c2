import TextTemplate.Text.Printable

/-
  Quoted forms of texts and of byte strings.

  The quotation mark is an apostrophe, unless the text holds
  an apostrophe and no double quotation mark.  A backslash
  stands before the mark in use and before a backslash, and
  begins the form of a character that is not printed as it
  is.  A byte string has the letter b in front, and its bytes
  outside ASCII are written in hexadecimal.

  Key definitions include:
    * `Quoted.text`
    * `Quoted.bytes`
-/

------------------------------------------------------------
-- Characters
------------------------------------------------------------

namespace TextTemplate

namespace Quoted

/- A hexadecimal digit, in lower case. -/
def hexDigit
    (value : Nat) : Char :=
  (Nat.toDigits 16 (value % 16)).headD '0'

/- A character below 256 as a backslash, x and two digits. -/
def hexEscape
    (code : Nat) : List Char :=
  ['\\', 'x', hexDigit (code / 16), hexDigit code]

/- A UTF-16 unit as a backslash, u and four digits. -/
def hexUnit
    (code : Nat) : List Char :=
  ['\\', 'u', hexDigit (code / 0x1000),
    hexDigit (code / 0x100), hexDigit (code / 0x10),
    hexDigit code]

/-
  A character in hexadecimal: with two digits, four or eight
  after the letter that says so.
-/
def numbered
    (code : Nat) : List Char :=
  if code < 0x100 then
    hexEscape code
  else if code < 0x10000 then
    hexUnit code
  else
    ['\\', 'U', '0', '0', hexDigit (code / 0x100000),
      hexDigit (code / 0x10000), hexDigit (code / 0x1000),
      hexDigit (code / 0x100), hexDigit (code / 0x10),
      hexDigit code]

/- The quotation mark put around a text. -/
def mark
    (content : List Char) : Char :=
  if content.contains '\'' && !content.contains '"' then
    '"'
  else
    '\''

/- A character as it stands between quotation marks. -/
def escape
    (mark : Char)
    (c : Char) : List Char :=
  if c = mark || c = '\\' then
    ['\\', c]
  else if c = '\t' then
    ['\\', 't']
  else if c = '\n' then
    ['\\', 'n']
  else if c = '\r' then
    ['\\', 'r']
  else if Printable.isPrintable c then
    [c]
  else
    numbered c.toNat

/- A byte as it stands between quotation marks. -/
def escapeByte
    (mark : Char)
    (byte : UInt8) : List Char :=
  if 0x80 ≤ byte then
    hexEscape byte.toNat
  else
    escape mark (Char.ofNat byte.toNat)

end Quoted

end TextTemplate

------------------------------------------------------------
-- Quoted Forms
------------------------------------------------------------

namespace TextTemplate

namespace Quoted

/- The quoted form of a text. -/
def text
    (content : String) : String :=
  let chars := content.toList
  let mark := mark chars
  String.ofList
    (mark :: chars.flatMap (escape mark) ++ [mark])

/- The quoted form of a byte string. -/
def bytes
    (content : ByteArray) : String :=
  let values := content.toList
  let mark := mark
    (values.map fun byte => Char.ofNat byte.toNat)
  String.ofList
    ('b' :: mark ::
      values.flatMap (escapeByte mark) ++ [mark])

end Quoted

end TextTemplate
