/-
  Decimal digits of all scripts, as of version 14 of the
  Unicode standard.

  The ten digits of a script follow one another, so a table
  of the zeros determines them all.

  Key definitions include:
    * `Digit.zeros`
    * `Digit.value?`
    * `Digit.isAscii`
-/

------------------------------------------------------------
-- Table
------------------------------------------------------------

namespace TextTemplate

namespace Digit

/- The code points of the digit zero in each script. -/
def zeros : List Nat :=
  [0x30, 0x660, 0x6F0, 0x7C0, 0x966, 0x9E6, 0xA66, 0xAE6,
    0xB66, 0xBE6, 0xC66, 0xCE6, 0xD66, 0xDE6, 0xE50, 0xED0,
    0xF20, 0x1040, 0x1090, 0x17E0, 0x1810, 0x1946, 0x19D0,
    0x1A80, 0x1A90, 0x1B50, 0x1BB0, 0x1C40, 0x1C50, 0xA620,
    0xA8D0, 0xA900, 0xA9D0, 0xA9F0, 0xAA50, 0xABF0, 0xFF10,
    0x104A0, 0x10D30, 0x11066, 0x110F0, 0x11136, 0x111D0,
    0x112F0, 0x11450, 0x114D0, 0x11650, 0x116C0, 0x11730,
    0x118E0, 0x11950, 0x11C50, 0x11D50, 0x11DA0, 0x16A60,
    0x16AC0, 0x16B50, 0x1D7CE, 0x1D7D8, 0x1D7E2, 0x1D7EC,
    0x1D7F6, 0x1E140, 0x1E2F0, 0x1E950, 0x1FBF0]

/- The digits of a table entry are the ten from its zero. -/
def valueFrom?
    (start : Nat)
    (c : Char) : Option Nat :=
  if start ≤ c.toNat && c.toNat < start + 10 then
    some (c.toNat - start)
  else
    none

/- The value of a decimal digit. -/
def value?
    (c : Char) : Option Nat :=
  zeros.findSome? fun start => valueFrom? start c

/- Whether a character is a decimal digit. -/
def isDigit
    (c : Char) : Bool :=
  (value? c).isSome

/- Whether a character is an ASCII digit. -/
def isAscii
    (c : Char) : Bool :=
  (valueFrom? 0x30 c).isSome

/- The number that a sequence of digit values denotes. -/
def number
    (values : List Nat) : Nat :=
  values.foldl (fun total value => 10 * total + value) 0

end Digit

end TextTemplate
