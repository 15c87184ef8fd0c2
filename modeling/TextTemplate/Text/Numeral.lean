import TextTemplate.Text.Blank
import TextTemplate.Text.Digit
import TextTemplate.Text.Split

/-
  Whole numbers as people write them.

  A numeral may have blanks around it and one sign in front,
  has decimal digits of any script, and may have single
  underscores between its digits.

  Key definitions include:
    * `Numeral.maxDigits`
    * `Numeral.isLong`
    * `Numeral.magnitude?`
    * `Numeral.read?`
-/

------------------------------------------------------------
-- Digits
------------------------------------------------------------

namespace TextTemplate

namespace Numeral

/- The greatest number of digits that is read or written. -/
def maxDigits : Nat :=
  4300

/- Whether a number has more digits than are written. -/
def isLong
    (value : Int) : Bool :=
  maxDigits < (Nat.toDigits 10 value.natAbs).length

/- The digit values of a group without underscores. -/
def group?
    (group : List Char) : Option (List Nat) :=
  if group.isEmpty then
    none
  else
    group.mapM Digit.value?

/- The digit values of a numeral without sign and blanks. -/
def digits?
    (text : List Char) : Option (List Nat) :=
  ((Split.parts '_' text).mapM group?).map List.flatten

/- The number that a numeral without sign denotes. -/
def magnitude?
    (text : List Char) : Option Nat :=
  match digits? text with
  | some values =>
      if values.length ≤ maxDigits then
        some (Digit.number values)
      else
        none
  | none => none

end Numeral

end TextTemplate

------------------------------------------------------------
-- Numerals
------------------------------------------------------------

namespace TextTemplate

namespace Numeral

/- The number that a numeral without blanks denotes. -/
def signed? : List Char → Option Int
  | '+' :: rest =>
      (magnitude? rest).map fun (size : Nat) => (size : Int)
  | '-' :: rest =>
      (magnitude? rest).map fun (size : Nat) =>
        -(size : Int)
  | text =>
      (magnitude? text).map fun (size : Nat) => (size : Int)

/- The number that a numeral denotes. -/
def read?
    (text : String) : Option Int :=
  signed? (Blank.trim text.toList)

end Numeral

end TextTemplate
