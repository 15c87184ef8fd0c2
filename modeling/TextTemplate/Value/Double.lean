/-
  Floating-point numbers as they are written.

  A finite number is known by the shortest decimal that is
  read back as it.  A decimal of ordinary size is written
  with a point among its digits or zeros, and any other in
  scientific form.

  Key definitions include:
    * `Decimal`
    * `Decimal.chars`
    * `Double`
    * `Double.json`
    * `Double.display`
-/

------------------------------------------------------------
-- Decimals
------------------------------------------------------------

namespace TextTemplate

/-
  A coefficient times a power of ten.  The coefficient has
  no zero at its end, unless the decimal is zero.
-/
structure Decimal where
  coefficient : Nat
  exponent : Int
  normal :
    coefficient % 10 ≠ 0 ∨ coefficient = 0 ∧ exponent = 0
  deriving DecidableEq

namespace Decimal

/- The digits of the coefficient. -/
def digits
    (decimal : Decimal) : List Char :=
  decimal.coefficient.repr.toList

/-
  Where the point stands, counted in digits from the first
  one.
-/
def point
    (decimal : Decimal) : Int :=
  decimal.digits.length + decimal.exponent

/- The greatest position of the point in positional form. -/
def maxPoint : Int :=
  16

/- The least position of the point in positional form. -/
def minPoint : Int :=
  -3

/- So many zeros. -/
def zeros
    (count : Int) : List Char :=
  List.replicate count.toNat '0'

/- The digits before and after the point. -/
def positional
    (decimal : Decimal) : List Char × List Char :=
  let digits := decimal.digits
  let point := decimal.point
  if point ≤ 0 then
    (['0'], zeros (-point) ++ digits)
  else if point < digits.length then
    (digits.take point.toNat, digits.drop point.toNat)
  else
    (digits ++ zeros (point - digits.length), ['0'])

/- The characters of an exponent: a sign, and two digits at least. -/
def exponentChars
    (exponent : Int) : List Char :=
  let digits := exponent.natAbs.repr.toList
  (if exponent < 0 then '-' else '+') ::
    digits.leftpad 2 '0'

/- Digits with a point before the last of them, if there are such. -/
def withPoint
    (whole fraction : List Char) : List Char :=
  match fraction with
  | [] => whole
  | fraction => whole ++ '.' :: fraction

/- The characters of a decimal. -/
def chars
    (decimal : Decimal) : List Char :=
  let digits := decimal.digits
  let point := decimal.point
  if minPoint ≤ point && point ≤ maxPoint then
    withPoint decimal.positional.1 decimal.positional.2
  else
    withPoint (digits.take 1) (digits.drop 1) ++
      'e' :: exponentChars (point - 1)

end Decimal

end TextTemplate

------------------------------------------------------------
-- Floating-Point Numbers
------------------------------------------------------------

namespace TextTemplate

/- A floating-point number. -/
inductive Double where
  | notANumber
  | infinity (negative : Bool)
  | finite (negative : Bool) (size : Decimal)
  deriving DecidableEq

namespace Double

/- The characters of a sign. -/
def sign
    (negative : Bool) : List Char :=
  if negative then ['-'] else []

/-
  The characters of a number, with certain words for what is
  no finite number.
-/
def chars
    (nanWord infinityWord : String) : Double → List Char
  | .notANumber => nanWord.toList
  | .infinity negative =>
      sign negative ++ infinityWord.toList
  | .finite negative size => sign negative ++ size.chars

/- The characters of a number in JSON. -/
def json : Double → List Char :=
  chars "NaN" "Infinity"

/- A number as it is shown to people. -/
def display
    (number : Double) : String :=
  String.ofList (number.chars "nan" "inf")

end Double

end TextTemplate
