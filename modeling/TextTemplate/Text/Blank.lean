/-
  Blanks that may surround a number: the ASCII ones from the
  tab to the carriage return and the space, and all white
  space of the Unicode standard outside ASCII.

  Key definitions include:
    * `Blank.isBlank`
    * `Blank.trim`
-/

------------------------------------------------------------
-- Blanks
------------------------------------------------------------

namespace TextTemplate

namespace Blank

/- The first and last code point of each run of blanks. -/
def ranges : List (Nat × Nat) :=
  [(0x09, 0x0D), (0x20, 0x20), (0x85, 0x85), (0xA0, 0xA0),
    (0x1680, 0x1680), (0x2000, 0x200A), (0x2028, 0x2029),
    (0x202F, 0x202F), (0x205F, 0x205F), (0x3000, 0x3000)]

/- Whether a character is a blank. -/
def isBlank
    (c : Char) : Bool :=
  ranges.any fun range =>
    range.1 ≤ c.toNat && c.toNat ≤ range.2

/- A text without the blanks at its two ends. -/
def trim
    (text : List Char) : List Char :=
  let started := text.dropWhile isBlank
  (started.reverse.dropWhile isBlank).reverse

end Blank

end TextTemplate
