import TextTemplate.Content.ByteSet
import TextTemplate.Text.Utf8

/-
  What a segment of the input may consist of.

  A kind of content accepts or refuses each byte by its
  place in the segment.  `scan` finds how many bytes are
  accepted from a position on, and `complete` is the rest of
  the decision for a segment of accepted bytes.  `accepts`
  decides for a whole segment.

  Key definitions include:
    * `Content`
    * `Content.allows`
    * `Content.scan`
    * `Content.complete`
    * `Content.accepts`
-/

------------------------------------------------------------
-- Bytes
------------------------------------------------------------

namespace TextTemplate

namespace Content

/- Whether a byte is one of the six ASCII blanks. -/
def isBlank
    (byte : UInt8) : Bool :=
  byte = 0x20 || (0x09 ≤ byte && byte ≤ 0x0D)

/- Whether a byte is an ASCII digit. -/
def isDigit
    (byte : UInt8) : Bool :=
  0x30 ≤ byte && byte ≤ 0x39

/- Whether a byte is a plus or a minus sign. -/
def isSign
    (byte : UInt8) : Bool :=
  byte = 0x2B || byte = 0x2D

/- Whether a byte is the decimal point. -/
def isPoint
    (byte : UInt8) : Bool :=
  byte = 0x2E

end Content

end TextTemplate

------------------------------------------------------------
-- Kinds of Content
------------------------------------------------------------

namespace TextTemplate

/- A kind of content. -/
inductive Content where
  | anyByte
  | nonBlank
  | blank
  | unsigned
  | signed
  | decimal
  | oneOf (set : ByteSet) (negated : Bool)
  | literal (text : ByteArray)
  deriving DecidableEq

namespace Content

/- Whether a byte may stand at an index of a segment. -/
def allows
    (content : Content)
    (index : Nat)
    (byte : UInt8) : Bool :=
  match content with
  | .anyByte => true
  | .nonBlank => !isBlank byte
  | .blank => isBlank byte
  | .unsigned => isDigit byte
  | .signed =>
      isDigit byte || (index = 0 && isSign byte)
  | .decimal =>
      isDigit byte || isPoint byte ||
        (index = 0 && isSign byte)
  | .oneOf set negated => set.contains byte != negated
  | .literal text => text[index]? = some byte

/- Whether a byte may stand in a segment only once. -/
def isSingular
    (content : Content)
    (byte : UInt8) : Bool :=
  match content with
  | .decimal => isPoint byte
  | _ => false

end Content

end TextTemplate

------------------------------------------------------------
-- Scanning
------------------------------------------------------------

namespace TextTemplate

namespace Content

/-
  Continue a scan at an index of the segment that begins at
  `start`; `seen` tells whether a singular byte came before.
-/
def scanFrom
    (content : Content)
    (data : ByteArray)
    (start : Nat)
    (index : Nat)
    (seen : Bool) : Nat → Nat
  | 0 => index
  | remaining + 1 =>
      match data[start + index]? with
      | none => index
      | some byte =>
          let singular := content.isSingular byte
          if content.allows index byte &&
              !(seen && singular) then
            scanFrom content data start (index + 1)
              (seen || singular) remaining
          else
            index

/-
  Continue at an index to compare the data from `start` on
  with a literal.
-/
def compareFrom
    (text : ByteArray)
    (data : ByteArray)
    (start : Nat)
    (index : Nat) : Nat → Nat
  | 0 => index
  | remaining + 1 =>
      match text[index]?, data[start + index]? with
      | some expected, some byte =>
          if byte = expected then
            compareFrom text data start (index + 1)
              remaining
          else
            index
      | _, _ => index

/- Whether a literal stands at `start` and ends by `stop`. -/
def standsAt
    (text : ByteArray)
    (data : ByteArray)
    (start stop : Nat) : Bool :=
  start + text.size ≤ stop &&
    data.extract start (start + text.size) = text

/-
  The number of bytes accepted from `start`, up to `stop`.  A
  literal is compared byte by byte only if it does not stand
  there as a whole.
-/
def scan
    (content : Content)
    (data : ByteArray)
    (start stop : Nat) : Nat :=
  match content with
  | .anyByte => stop - start
  | .literal text =>
      if standsAt text data start stop then
        text.size
      else
        compareFrom text data start 0 (stop - start)
  | content =>
      content.scanFrom data start 0 false (stop - start)

end Content

end TextTemplate

------------------------------------------------------------
-- Complete Segments
------------------------------------------------------------

namespace TextTemplate

namespace Content

/- The position after a sign that may begin a segment. -/
def afterSign
    (data : ByteArray)
    (start stop : Nat) : Nat :=
  if start < stop && data[start]?.any isSign then
    start + 1
  else
    start

/-
  What is left to check on a segment whose bytes a scan
  accepts: a number has a digit before any point, and a
  literal has its whole text.
-/
def complete
    (content : Content)
    (data : ByteArray)
    (start stop : Nat) : Bool :=
  match content with
  | .unsigned => start < stop
  | .signed => afterSign data start stop < stop
  | .decimal =>
      let body := afterSign data start stop
      body < stop && !data[body]?.any isPoint
  | .literal text => stop - start = text.size
  | _ => true

/- Whether a scan and the check after it accept a segment. -/
def accepted
    (content : Content)
    (segment : ByteArray) : Bool :=
  content.scan segment 0 segment.size = segment.size &&
    content.complete segment 0 segment.size

/- Whether a segment is of a kind of content. -/
def accepts
    (content : Content)
    (segment : ByteArray) : Bool :=
  match content with
  | .literal text => segment = text
  | content => content.accepted segment

end Content

end TextTemplate
