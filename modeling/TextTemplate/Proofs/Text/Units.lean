import TextTemplate.Text.CodePoint

/-
  Texts and their UTF-16 units.

  The units of a text are read as a text in which each pair
  of halves is joined into the character that it stands for.
  So texts have the same units just if they are equal after
  their pairs are joined.  A text of characters has no pairs
  to join.

  Main declarations:
    * `CodePoint.ofUnits`
    * `LooseText.joined`
    * `LooseText.joined_eq_iff`
    * `LooseText.joined_ofString`
-/

------------------------------------------------------------
-- Reading Units
------------------------------------------------------------

namespace TextTemplate

namespace CodePoint

/- Whether a unit is the high half of a pair. -/
def isHigh
    (unit : Nat) : Bool :=
  unit / 0x400 = 0x36

/- Whether a unit is the low half of a pair. -/
def isLow
    (unit : Nat) : Bool :=
  unit / 0x400 = 0x37

/- The code point of a unit that is not part of a pair. -/
def ofUnit
    (unit : Nat) : CodePoint :=
  if hHalf : unit - firstHalf < 0x800 ∧ firstHalf ≤ unit then
    .half ⟨unit - firstHalf, hHalf.1⟩
  else
    .char (Char.ofNat unit)

/- The character that a pair of halves stands for. -/
def ofPair
    (high low : Nat) : CodePoint :=
  .char (Char.ofNat
    (0x10000 + (high - firstHalf) * 0x400 +
      (low - firstLow)))

/- The code points of units, with all pairs joined. -/
def ofUnits : List Nat → List CodePoint
  | [] => []
  | [unit] => [ofUnit unit]
  | high :: low :: rest =>
      if isHigh high && isLow low then
        ofPair high low :: ofUnits rest
      else
        ofUnit high :: ofUnits (low :: rest)

/- The number of a character, if it is valid. -/
theorem toNat_ofNat
    {code : Nat}
    (hValid :
      code < firstHalf ∨
        firstHalf + 0x800 ≤ code ∧ code < 0x110000) :
    (Char.ofNat code).toNat = code := by
  have hChar : code.isValidChar := by
    unfold firstHalf at hValid
    unfold Nat.isValidChar
    omega
  rw [Char.ofNat, dif_pos hChar]
  rfl

/- A single unit is that of its code point. -/
theorem units_ofUnit
    {unit : Nat}
    (hUnit : unit < 0x10000) :
    (ofUnit unit).units = [unit] := by
  unfold ofUnit
  split
  · rename_i hHalf
    rw [units, Nat.add_sub_cancel' hHalf.2]
  · rename_i hChar
    have hCode : (Char.ofNat unit).toNat = unit :=
      toNat_ofNat (by omega)
    rw [units, hCode, unitsOf, if_pos hUnit]

/- A pair of units is that of its character. -/
theorem units_ofPair
    {high low : Nat}
    (hHigh : isHigh high = true)
    (hLow : isLow low = true) :
    (ofPair high low).units = [high, low] := by
  rw [isHigh, decide_eq_true_eq] at hHigh
  rw [isLow, decide_eq_true_eq] at hLow
  have hRange :
      firstHalf + 0x800 ≤
          0x10000 + (high - firstHalf) * 0x400 +
            (low - firstLow) ∧
        0x10000 + (high - firstHalf) * 0x400 +
            (low - firstLow) < 0x110000 := by
    unfold firstHalf firstLow
    omega
  have hCode := toNat_ofNat (.inr hRange)
  rw [ofPair, units, hCode, unitsOf, if_neg (by omega)]
  simp only [List.cons.injEq, and_true]
  unfold firstHalf firstLow
  omega

/- Units are those of the code points they are read as. -/
theorem flatMap_units_ofUnits
    {codes : List Nat}
    (hCodes : ∀ code ∈ codes, code < 0x10000) :
    (ofUnits codes).flatMap units = codes := by
  induction codes using ofUnits.induct with
  | case1 => rfl
  | case2 unit =>
      have hUnit := hCodes unit List.mem_cons_self
      rw [ofUnits, List.flatMap_singleton,
        units_ofUnit hUnit]
  | case3 high low rest hPair ih =>
      have hRest : ∀ code ∈ rest, code < 0x10000 :=
        fun code hCode => hCodes code (by simp [hCode])
      rw [ofUnits, if_pos hPair, List.flatMap_cons, ih hRest]
      rw [Bool.and_eq_true] at hPair
      rw [units_ofPair hPair.1 hPair.2]
      rfl
  | case4 high low rest hSingle ih =>
      rcases List.forall_mem_cons.mp hCodes with
        ⟨hHigh, hLater⟩
      rw [ofUnits, if_neg hSingle, List.flatMap_cons,
        ih hLater, units_ofUnit hHigh]
      rfl

end CodePoint

end TextTemplate

------------------------------------------------------------
-- Joined Texts
------------------------------------------------------------

namespace TextTemplate

namespace CodePoint

/- A unit is a number of 16 bits. -/
theorem units_lt
    (point : CodePoint) :
    ∀ code ∈ point.units, code < 0x10000 := by
  cases point with
  | char c =>
      have hValid : c.toNat.isValidChar := c.valid
      simp only [Nat.isValidChar] at hValid
      simp only [units, unitsOf, firstHalf, firstLow]
      split
      · simpa
      · simp only [List.mem_cons, List.not_mem_nil, or_false]
        rintro code (hCode | hCode) <;> omega
  | half index =>
      have hIndex := index.isLt
      simp only [units, firstHalf, List.mem_singleton]
      intro code hCode
      omega

/- The units of a character are read before later ones. -/
theorem ofUnits_unitsOf_append
    (c : Char)
    (rest : List Nat) :
    ofUnits (unitsOf c.toNat ++ rest) =
      .char c :: ofUnits rest := by
  have hValid : c.toNat.isValidChar := c.valid
  simp only [Nat.isValidChar] at hValid
  unfold unitsOf
  split
  · rename_i hSmall
    have hUnit : ofUnit c.toNat = .char c := by
      unfold ofUnit firstHalf
      split
      · omega
      · rw [Char.ofNat_toNat]
    have hHigh : isHigh c.toNat = false := by
      rw [isHigh, decide_eq_false_iff_not]
      omega
    cases rest with
    | nil => simp [ofUnits, hUnit]
    | cons low rest => simp [ofUnits, hUnit, hHigh]
  · rename_i hLarge
    have hPair : ∀ high low,
        high = firstHalf + (c.toNat - 0x10000) / 0x400 →
        low = firstLow + (c.toNat - 0x10000) % 0x400 →
          ofUnits (high :: low :: rest) =
            .char c :: ofUnits rest := by
      unfold firstHalf firstLow
      intro high low hHigh hLow
      have hCode :
          0x10000 + (high - 0xD800) * 0x400 +
              (low - 0xDC00) =
            c.toNat := by
        omega
      have hHalves :
          (isHigh high && isLow low) = true := by
        rw [isHigh, isLow, Bool.and_eq_true,
          decide_eq_true_eq, decide_eq_true_eq]
        omega
      rw [ofUnits, if_pos hHalves, ofPair, firstHalf,
        firstLow, hCode, Char.ofNat_toNat]
    exact hPair _ _ rfl rfl

end CodePoint

namespace LooseText

/- A text with its pairs of halves joined into characters. -/
def joined
    (text : LooseText) : LooseText :=
  ⟨CodePoint.ofUnits text.units⟩

theorem units_lt
    (text : LooseText) :
    ∀ code ∈ text.units, code < 0x10000 := by
  intro code hCode
  rcases List.mem_flatMap.mp hCode with ⟨point, _, hPoint⟩
  exact point.units_lt code hPoint

/- Joining pairs does not change the units. -/
theorem units_joined
    (text : LooseText) :
    text.joined.units = text.units :=
  CodePoint.flatMap_units_ofUnits text.units_lt

/- Texts are equal after joining if they have the same units. -/
theorem joined_eq_iff
    {text other : LooseText} :
    text.joined = other.joined ↔
      text.units = other.units := by
  constructor
  · intro hSame
    rw [← text.units_joined, hSame, other.units_joined]
  · intro hSame
    rw [joined, hSame, joined]

/- A text of characters has no pairs of halves. -/
theorem joined_ofString
    (text : String) :
    (ofString text).joined = ofString text := by
  have hChars : ∀ chars : List Char,
      CodePoint.ofUnits
          ((chars.map .char).flatMap CodePoint.units) =
        chars.map .char := by
    intro chars
    induction chars with
    | nil => rfl
    | cons c later ih =>
        rw [List.map_cons, List.flatMap_cons]
        change CodePoint.ofUnits
          (CodePoint.unitsOf c.toNat ++ _) = _
        rw [CodePoint.ofUnits_unitsOf_append, ih]
  exact congrArg mk (hChars text.toList)

end LooseText

end TextTemplate
