import TextTemplate.Text.Quoted
import TextTemplate.Text.Utf8

/-
  Texts that need not be well formed.

  Beside characters such a text may hold halves of surrogate
  pairs.  A text with a half has no encoding in UTF-8.  In
  UTF-16 a half is a unit by itself, so a pair of halves is
  written like the character that it stands for.

  Key definitions include:
    * `CodePoint`
    * `LooseText`
    * `LooseText.toString?`
    * `LooseText.encode?`
    * `LooseText.units`
    * `LooseText.quoted`
-/

------------------------------------------------------------
-- Code Points
------------------------------------------------------------

namespace TextTemplate

/- A character, or a half of a surrogate pair by its index. -/
inductive CodePoint where
  | char (c : Char)
  | half (index : Fin 0x800)
  deriving DecidableEq

namespace CodePoint

/- The first code point that is a half. -/
def firstHalf : Nat :=
  0xD800

/- The first code point that is the low half of a pair. -/
def firstLow : Nat :=
  0xDC00

/- The character, if a code point is one. -/
def char? : CodePoint → Option Char
  | .char c => some c
  | .half _ => none

/- The UTF-16 units of a character by its number. -/
def unitsOf
    (code : Nat) : List Nat :=
  if code < 0x10000 then
    [code]
  else
    [firstHalf + (code - 0x10000) / 0x400,
      firstLow + (code - 0x10000) % 0x400]

/- The UTF-16 units of a code point. -/
def units : CodePoint → List Nat
  | .char c => unitsOf c.toNat
  | .half index => [firstHalf + index]

/- A code point as a stream of UTF-8 shows it. -/
def shown : CodePoint → List Char
  | .char c => [c]
  | .half index => Quoted.hexUnit (firstHalf + index)

/- A code point as it stands between quotation marks. -/
def quoted
    (mark : Char) : CodePoint → List Char
  | .char c => Quoted.escape mark c
  | .half index => Quoted.hexUnit (firstHalf + index)

/- Characters are read from code points. -/
theorem mapM_char?_map
    (chars : List Char) :
    (chars.map char).mapM char? = some chars := by
  induction chars with
  | nil => rfl
  | cons c later ih =>
      rw [List.map_cons, List.mapM_cons, ih]
      rfl

/- Code points that are read are characters. -/
theorem eq_of_mapM_char?
    {points : List CodePoint}
    {chars : List Char}
    (hChars : points.mapM char? = some chars) :
    points = chars.map char := by
  induction points generalizing chars with
  | nil =>
      rw [List.mapM_nil] at hChars
      rw [← Option.some.inj hChars]
      rfl
  | cons point later ih =>
      rw [List.mapM_cons] at hChars
      obtain ⟨c, hFirst, hChars⟩ :=
        Option.bind_eq_some_iff.mp hChars
      obtain ⟨rest, hRest, hChars⟩ :=
        Option.bind_eq_some_iff.mp hChars
      cases point with
      | half index => exact nomatch hFirst
      | char d =>
          obtain rfl : d = c := Option.some.inj hFirst
          rw [← Option.some.inj hChars, ih hRest]
          rfl

end CodePoint

end TextTemplate

------------------------------------------------------------
-- Loose Texts
------------------------------------------------------------

namespace TextTemplate

/- A text of any code points. -/
structure LooseText where
  points : List CodePoint
  deriving DecidableEq

namespace LooseText

/- A text of characters. -/
def ofString
    (text : String) : LooseText :=
  ⟨text.toList.map .char⟩

instance : Coe String LooseText where
  coe := ofString

instance : Inhabited LooseText where
  default := ⟨[]⟩

/- The text of characters, if there are no halves. -/
def toString?
    (text : LooseText) : Option String :=
  (text.points.mapM CodePoint.char?).map String.ofList

/- The bytes of a text, if it has an encoding. -/
def encode?
    (text : LooseText) : Option ByteArray :=
  text.toString?.map Utf8.encode

/- The UTF-16 units of a text. -/
def units
    (text : LooseText) : List Nat :=
  text.points.flatMap CodePoint.units

/- A text as a stream of UTF-8 shows it. -/
def shown
    (text : LooseText) : String :=
  String.ofList (text.points.flatMap CodePoint.shown)

/- The quoted form of a text. -/
def quoted
    (text : LooseText) : String :=
  let mark :=
    Quoted.mark (text.points.filterMap CodePoint.char?)
  String.ofList
    (mark :: text.points.flatMap (CodePoint.quoted mark) ++
      [mark])

/- A text of characters is told apart by its characters. -/
theorem ofString_injective
    {text other : String}
    (hSame : ofString text = ofString other) :
    text = other := by
  have hPoints := congrArg
    (fun text => text.points.filterMap CodePoint.char?) hSame
  have hChars : ∀ chars : List Char,
      (chars.map CodePoint.char).filterMap CodePoint.char? =
        chars := by
    intro chars
    induction chars with
    | nil => rfl
    | cons c later ih =>
        rw [List.map_cons]
        exact congrArg (c :: ·) ih
  simp only [ofString, hChars] at hPoints
  exact String.toList_inj.mp hPoints

/- A text of characters is read back. -/
theorem toString?_ofString
    (text : String) :
    (ofString text).toString? = some text := by
  rw [toString?, ofString, CodePoint.mapM_char?_map,
    Option.map_some, String.ofList_toList]

/- Only a text of characters can be read. -/
theorem eq_of_toString?
    {text : LooseText}
    {content : String}
    (hContent : text.toString? = some content) :
    text = content := by
  rcases text with ⟨points⟩
  obtain ⟨chars, hChars, rfl⟩ :=
    Option.map_eq_some_iff.mp hContent
  rw [ofString, String.toList_ofList]
  exact congrArg mk (CodePoint.eq_of_mapM_char? hChars)

/- A text of characters is shown as it is. -/
theorem shown_ofString
    (text : String) :
    (ofString text).shown = text := by
  rw [shown, ofString, List.flatMap_map]
  change String.ofList (text.toList.flatMap fun c => [c]) =
    text
  rw [List.flatMap_singleton', String.ofList_toList]

end LooseText

end TextTemplate
